import Laforge.Core.Revision

/-!
# Laforge.Core.RevisionPath

Which records `AbsPath` keeps apart.  For IDs as the loader derives them (relative paths of
names) and kind names without `.` or `/`, the record path of a non-environment node is the
cleaned base directory followed by the elements

```
key elements ++ [file name]
```

where the key is the ID, except for a connection, whose record goes in the directory above its
ID.  A cleaned path that starts with the same base determines these elements, and the file
name determines the kind.  So the path is injective on (key, kind), and on (ID, kind) except for
connections: two connections whose IDs share a directory share one record.
-/

namespace Laforge.Core

open Laforge.Go Laforge.Go.Filepath

/-- An ID as the loader derives them: a relative `/`-separated path whose elements are all names
(not empty, `.` or `..`). -/
def CleanID (id : String) : Prop := ∀ e ∈ id.data.splitOn '/', IsName e

instance : DecidablePred CleanID := fun _ => inferInstanceAs (Decidable (∀ e ∈ _, _))

/-- A kind name as the `LFType` constants spell them: no `.` and no `/`, and not `env`, the name
the environment's record takes. -/
def KindName (t : LFType) : Prop := '.' ∉ t.val.data ∧ '/' ∉ t.val.data ∧ t.val ≠ "env"

instance : DecidablePred KindName := fun _ => inferInstanceAs (Decidable (_ ∧ _ ∧ _))

/-- What a record's path is keyed by: the directory above the ID for a connection, the ID itself
for every other kind. -/
def recordKey (k : Kinds) (r : Revision) : String :=
  if r.type = k.connection then dir r.id else r.id

/-! ## The elements of a clean ID -/

/-- The characters of an ID before its last element. -/
def parentChars (init : List (List Char)) : List Char :=
  if init = [] then [] else ['/'].intercalate init ++ ['/']

theorem cleanID_split {id : String} (h : CleanID id) :
    ∃ init last, id.data.splitOn '/' = init ++ [last] ∧ id.data = parentChars init ++ last ∧
      IsName last ∧ '/' ∉ last ∧ ∀ e ∈ init, IsName e ∧ '/' ∉ e := by
  rcases List.eq_nil_or_concat (id.data.splitOn '/') with hn | ⟨init, last, hs⟩
  · exact absurd hn (List.splitOnP_ne_nil _ _)
  rw [List.concat_eq_append] at hs
  have sep : ∀ e ∈ id.data.splitOn '/', '/' ∉ e := fun e he => not_mem_of_mem_splitOn he
  refine ⟨init, last, hs, ?_, h last (by simp [hs]), sep last (by simp [hs]),
    fun e he => ⟨h e (by simp [hs, he]), sep e (by simp [hs, he])⟩⟩
  have hi := List.intercalate_splitOn id.data '/'
  rw [hs] at hi
  by_cases h0 : init = []
  · subst h0; simpa [parentChars, List.intercalate] using hi.symm
  · rw [intercalate_append_singleton _ h0] at hi
    simp [parentChars, h0, ← hi]

/-- A clean ID is not empty and does not start with a separator. -/
theorem cleanID_head {id : String} (h : CleanID id) : id ≠ "" ∧ id.data.head? ≠ some '/' := by
  have hi := List.intercalate_splitOn id.data '/'
  obtain ⟨e, es, hs⟩ := List.exists_cons_of_ne_nil (List.splitOnP_ne_nil (· == '/') id.data)
  have hs' : id.data.splitOn '/' = e :: es := hs
  have he : IsName e := h e (by rw [hs']; exact List.mem_cons_self e es)
  have hsep : '/' ∉ e := not_mem_of_mem_splitOn (by rw [hs']; exact List.mem_cons_self e es)
  obtain ⟨c, cs, rfl⟩ := List.exists_cons_of_ne_nil he.1
  have hhead : id.data.head? = some c := by
    rw [← hi, hs', head?_intercalate _ (List.cons_ne_nil _ _)]
    rfl
  refine ⟨fun h0 => by simp [h0] at hhead, ?_⟩
  rw [hhead]
  exact fun h' => hsep (by simp [Option.some.inj h'])

theorem base_of_split {id : String} {init : List (List Char)} {last : List Char}
    (hd : id.data = parentChars init ++ last) (hl : IsName last) (hs : '/' ∉ last) :
    (base id).data = last := by
  obtain ⟨c, cs, rfl⟩ : ∃ c cs, last = c :: cs := List.exists_cons_of_ne_nil hl.1
  have hc : c ≠ '/' := fun h => hs (by simp [h])
  have hne : id ≠ "" := fun h => by simp [h] at hd
  have htail : ((parentChars init).reverse.takeWhile (· != '/')) = [] := by
    unfold parentChars; split <;> simp
  have hrev : id.data.reverse = cs.reverse ++ c :: (parentChars init).reverse := by simp [hd]
  have hdrop : (cs.reverse ++ c :: (parentChars init).reverse).dropWhile (· == '/') =
      cs.reverse ++ c :: (parentChars init).reverse := by
    rcases List.eq_nil_or_concat cs with rfl | ⟨ys, y, rfl⟩
    · simp [hc]
    · have hy : y ≠ '/' := fun h => hs (by simp [h])
      simp [hy]
  have htake : (cs.reverse ++ c :: (parentChars init).reverse).takeWhile (· != '/') =
      cs.reverse ++ [c] := by
    rw [← List.singleton_append, ← List.append_assoc, List.takeWhile_append_of_pos, htail,
      List.append_nil]
    intro a ha
    simp only [List.mem_append, List.mem_reverse, List.mem_singleton] at ha
    rcases ha with ha | rfl
    · exact bne_iff_ne.mpr fun h => hs (List.mem_cons_of_mem c (h ▸ ha))
    · exact bne_iff_ne.mpr hc
  unfold base
  rw [if_neg hne, hrev, hdrop, htake]
  simp

theorem dir_of_split {id : String} {init : List (List Char)} {last : List Char}
    (hd : id.data = parentChars init ++ last) (hs : '/' ∉ last)
    (hi : ∀ e ∈ init, IsName e ∧ '/' ∉ e) :
    (dir id).data = if init = [] then ['.'] else ['/'].intercalate init := by
  have hdrop : (id.data.reverse.dropWhile (· != '/')).reverse = parentChars init := by
    rw [hd, List.reverse_append, List.dropWhile_append_of_pos]
    · unfold parentChars; split <;> simp
    · intro a ha; exact bne_iff_ne.mpr fun h => hs (by simp_all)
  unfold dir
  rw [hdrop]
  by_cases h0 : init = []
  · subst h0; rfl
  obtain ⟨e, es, rfl⟩ := List.exists_cons_of_ne_nil h0
  obtain ⟨⟨he0, -, -⟩, he⟩ := hi e (List.mem_cons_self e es)
  obtain ⟨c, cs, rfl⟩ := List.exists_cons_of_ne_nil he0
  have hc : c ≠ '/' := fun h => he (by simp [h])
  have hsep : ∀ x ∈ (c :: cs) :: es, '/' ∉ x := fun x hx => (hi x hx).2
  have hsplit : (['/'].intercalate ((c :: cs) :: es) ++ ['/']).splitOn '/' =
      ((c :: cs) :: es) ++ [[]] := by
    rw [splitOn_append_sep, List.splitOn_intercalate _ _ hsep (List.cons_ne_nil _ _)]; rfl
  have hhead : (['/'].intercalate ((c :: cs) :: es) ++ ['/']).head? = some c := by
    rw [List.head?_append, head?_intercalate _ (List.cons_ne_nil _ _)]; rfl
  have hnames : cleanElems false ((c :: cs) :: (es ++ [[]])) = (c :: cs) :: es := by
    have := @cleanElems_append_names false [] ((c :: cs) :: es) (fun x hx => (hi x hx).1)
    simpa [cleanElems, cleanStep, List.foldl_append] using this
  have hroot : (some c == some '/') = false := by simp [hc]
  simp only [clean, parentChars, h0, if_false, hhead, hsplit, hroot, List.cons_append, hnames]
  rfl

/-! ## File names -/

theorem filename_data (k : Kinds) (r : Revision) :
    (r.filename k).data = if r.type = k.provisioningStep then
      '.' :: (base r.id).data ++ ".pstep.lfrevision".data
    else '.' :: r.type.val.data ++ ".lfrevision".data := by
  unfold Revision.filename; split <;> rfl

theorem isName_dot_append {xs ys : List Char} (h : 2 ≤ ys.length) : IsName ('.' :: xs ++ ys) := by
  refine ⟨by simp, fun he => ?_, fun he => ?_⟩ <;>
    · have := congrArg List.length he
      simp only [List.cons_append, List.length_cons, List.length_append, List.length_nil] at this
      omega

/-- The file name is one name with no separator in it. -/
theorem filename_isName {k : Kinds} {r : Revision} (hid : CleanID r.id) (ht : KindName r.type) :
    IsName (r.filename k).data ∧ '/' ∉ (r.filename k).data := by
  obtain ⟨init, last, -, hd, hl, hs, -⟩ := cleanID_split hid
  have hb := base_of_split hd hl hs
  rw [filename_data]
  split
  · refine ⟨isName_dot_append (by decide), ?_⟩
    simp only [List.cons_append, List.mem_cons, List.mem_append, hb, not_or]
    exact ⟨by decide, hs, by decide⟩
  · refine ⟨isName_dot_append (by decide), ?_⟩
    simp only [List.cons_append, List.mem_cons, List.mem_append, not_or]
    exact ⟨by decide, ht.2.1, by decide⟩

/-- Kinds with names of the constants' shape get different file names. -/
theorem type_eq_of_filename_eq {k : Kinds} {r₁ r₂ : Revision} (ht₁ : KindName r₁.type)
    (ht₂ : KindName r₂.type) (h : r₁.filename k = r₂.filename k) : r₁.type = r₂.type := by
  have hd := congrArg String.data h
  have dotted : ∀ (b : List Char) (t : LFType), KindName t →
      ¬ b ++ ".pstep.lfrevision".data = t.val.data ++ ".lfrevision".data := by
    intro b t ht heq
    have : b ++ ".pstep".data = t.val.data :=
      List.append_cancel_right (by simpa using heq)
    exact ht.1 (by simp [← this])
  rw [filename_data, filename_data] at hd
  split at hd <;> split at hd
  · simp_all
  · exact absurd (List.cons.inj hd).2 (dotted _ _ ht₂)
  · exact absurd (List.cons.inj hd).2.symm (dotted _ _ ht₁)
  · simp only [List.cons.injEq, List.append_cancel_right_eq, true_and] at hd
    exact LFType.ext (String.ext hd)

/-! ## The record path of a non-environment node -/

/-- What a record path adds after the base directory: the key's elements, then the file name. -/
def recordElems (k : Kinds) (r : Revision) : List (List Char) :=
  (if r.type = k.connection then (r.id.data.splitOn '/').dropLast else r.id.data.splitOn '/') ++
    [(r.filename k).data]

theorem dir_head {id : String} (hid : CleanID id) :
    dir id ≠ "" ∧ (dir id).data.head? ≠ some '/' := by
  obtain ⟨init, last, -, hd, -, hs, hi⟩ := cleanID_split hid
  have hhead : ∃ c, (dir id).data.head? = some c ∧ c ≠ '/' := by
    rw [dir_of_split hd hs hi]
    split
    · exact ⟨'.', rfl, by decide⟩
    · obtain ⟨e, es, rfl⟩ := List.exists_cons_of_ne_nil ‹init ≠ []›
      obtain ⟨⟨he, -, -⟩, hsep⟩ := hi e (List.mem_cons_self e es)
      obtain ⟨c, cs, rfl⟩ := List.exists_cons_of_ne_nil he
      rw [head?_intercalate _ (List.cons_ne_nil _ _)]
      exact ⟨c, rfl, fun h' => hsep (by simp [h'])⟩
  obtain ⟨c, hc, hc'⟩ := hhead
  exact ⟨fun h0 => by simp [h0] at hc, fun h' => hc' (Option.some.inj (hc.symm.trans h'))⟩

/-- Every non-environment record path is the cleaned base directory followed by the record
elements. -/
theorem absPath_data {k : Kinds} {r : Revision} (b : String) (hid : CleanID r.id)
    (ht : KindName r.type) (henv : r.type ≠ k.environment) :
    (r.absPath k b).data =
      render (baseRooted b) (cleanElems (baseRooted b) (baseElems b) ++ recordElems k r) := by
  obtain ⟨init, last, hs, hd, -, hls, hi⟩ := cleanID_split hid
  obtain ⟨hfn, hfs⟩ := @filename_isName k _ hid ht
  have hf : (r.filename k).data.splitOn '/' = [(r.filename k).data] := splitOn_eq_single hfs
  unfold Revision.absPath recordElems
  rw [if_neg henv]
  split
  · obtain ⟨hne, hroot⟩ := dir_head hid
    rw [join_three b _ _ hne hroot, hf, hs, List.dropLast_concat, dir_of_split hd hls hi]
    split
    · subst_vars
      rw [show (['.'] : List Char).splitOn '/' = [['.']] from rfl,
        cleanElems_append_names _ (by simpa using hfn), cleanElems_append_dot]
      rfl
    · rw [List.splitOn_intercalate _ _ (fun e he => (hi e he).2) ‹_›, List.append_assoc,
        @cleanElems_append_names _ _ (init ++ _)]
      intro e he
      rcases List.mem_append.mp he with he | he
      · exact (hi e he).1
      · simpa [List.mem_singleton.mp he] using hfn
  · obtain ⟨hne, hroot⟩ := cleanID_head hid
    rw [join_three b _ _ hne hroot, hf, List.append_assoc, cleanElems_append_names]
    intro e he
    rcases List.mem_append.mp he with he | he
    · exact hid e he
    · simpa [List.mem_singleton.mp he] using hfn

theorem recordElems_sep {k : Kinds} {r : Revision} (hid : CleanID r.id) (ht : KindName r.type) :
    ∀ e ∈ recordElems k r, '/' ∉ e := by
  intro e he
  unfold recordElems at he
  rcases List.mem_append.mp he with he | he
  · split at he
    · exact not_mem_of_mem_splitOn (List.dropLast_subset _ he)
    · exact not_mem_of_mem_splitOn he
  · simpa [List.mem_singleton.mp he] using (@filename_isName k _ hid ht).2

/-- No record path of another kind is the environment's. -/
theorem absPath_ne_env {k : Kinds} {r : Revision} (b : String) (hid : CleanID r.id)
    (ht : KindName r.type) (henv : r.type ≠ k.environment) :
    r.absPath k b ≠ ".env.lfrevision" := by
  intro h
  have hd := congrArg String.data h
  rw [absPath_data b hid ht henv] at hd
  have hnosep : '/' ∉ ".env.lfrevision".data := by decide
  unfold recordElems at hd
  generalize hX : (if r.type = k.connection then (r.id.data.splitOn '/').dropLast
    else r.id.data.splitOn '/') = X at hd
  rcases hK : cleanElems (baseRooted b) (baseElems b) ++ X with _ | ⟨x, xs⟩
  · rw [← List.append_assoc, hK, List.nil_append] at hd
    cases hr : baseRooted b
    · rw [hr] at hd
      simp only [render, Bool.false_eq_true, if_false, List.nil_append, List.intercalate,
        List.intersperse_single, List.flatten_cons, List.flatten_nil, List.append_nil] at hd
      rw [filename_data] at hd
      split at hd
      · have := congrArg List.length hd
        simp at this
      · exact ht.2.2 (String.ext (List.append_cancel_right (List.cons.inj hd).2))
    · rw [hr] at hd
      exact hnosep (by rw [← hd]; simp [render])
  · rw [← List.append_assoc, hK, render_of_ne_nil _ (by simp)] at hd
    exact hnosep (by rw [← hd]; cases xs <;> simp [List.intercalate])

/-- **Record paths are injective on (key, kind).**  For IDs as the loader derives them and kind
names of the constants' shape, two records that are not both the environment's share a path
only if they have the same kind and the same key: the same ID, or, for connections, IDs in the
same directory. -/
theorem absPath_eq_imp_key_eq (k : Kinds) (b : String) {r₁ r₂ : Revision}
    (hid₁ : CleanID r₁.id) (hid₂ : CleanID r₂.id) (ht₁ : KindName r₁.type)
    (ht₂ : KindName r₂.type) (henv : ¬ (r₁.type = k.environment ∧ r₂.type = k.environment))
    (h : r₁.absPath k b = r₂.absPath k b) :
    r₁.type = r₂.type ∧ recordKey k r₁ = recordKey k r₂ := by
  by_cases e₁ : r₁.type = k.environment
  · have e₂ : r₂.type ≠ k.environment := fun e₂ => henv ⟨e₁, e₂⟩
    rw [Revision.absPath, if_pos e₁] at h
    exact absurd h.symm (absPath_ne_env b hid₂ ht₂ e₂)
  by_cases e₂ : r₂.type = k.environment
  · have : r₂.absPath k b = ".env.lfrevision" := by rw [Revision.absPath, if_pos e₂]
    exact absurd (h.trans this) (absPath_ne_env b hid₁ ht₁ e₁)
  have hd := congrArg String.data h
  rw [absPath_data b hid₁ ht₁ e₁, absPath_data b hid₂ ht₂ e₂] at hd
  have hre := render_append_inj (not_mem_of_mem_cleanElems splitOn_baseElems)
    (recordElems_sep hid₁ ht₁) (recordElems_sep hid₂ ht₂) (by simp [recordElems])
    (by simp [recordElems]) hd
  obtain ⟨hkey, hf⟩ := List.append_inj' hre rfl
  have hty := type_eq_of_filename_eq ht₁ ht₂ (String.ext (List.singleton_inj.mp hf))
  refine ⟨hty, ?_⟩
  obtain ⟨init₁, last₁, hs₁, hd₁, -, hls₁, hi₁⟩ := cleanID_split hid₁
  obtain ⟨init₂, last₂, hs₂, hd₂, -, hls₂, hi₂⟩ := cleanID_split hid₂
  unfold recordKey
  rw [← hty] at hkey ⊢
  split
  · simp only [if_pos ‹_›, hs₁, hs₂, List.dropLast_concat] at hkey
    subst hkey
    exact String.ext (by rw [dir_of_split hd₁ hls₁ hi₁, dir_of_split hd₂ hls₂ hi₂])
  · simp only [if_neg ‹_›] at hkey
    exact String.ext (by rw [← List.intercalate_splitOn r₁.id.data '/', hkey,
      List.intercalate_splitOn])

/-- Two connections of one host: their records share a path, and the theorem above reads back
that they have the same kind and the same directory. -/
theorem absPath_eq_imp_key_eq_siblings :
    let k : Kinds := ⟨⟨"environment"⟩, ⟨"connection"⟩, ⟨"provisioning_step"⟩, by decide⟩
    let r₁ : Revision := ⟨none, "net/host/c1", k.connection, .active, 7, .zero, "", none⟩
    let r₂ : Revision := ⟨none, "net/host/c2", k.connection, .failed, 9, .zero, "i-1", none⟩
    r₁.absPath k "builds" = r₂.absPath k "builds" ∧
      r₁.type = r₂.type ∧ recordKey k r₁ = recordKey k r₂ :=
  have h : Revision.absPath _ ⟨none, "net/host/c1", ⟨"connection"⟩, .active, 7, .zero, "", none⟩
      "builds" = Revision.absPath _ ⟨none, "net/host/c2", ⟨"connection"⟩, .failed, 9, .zero, "i-1",
      none⟩ "builds" := by decide
  ⟨h, absPath_eq_imp_key_eq _ "builds" (by decide) (by decide) (by decide) (by decide)
    (by decide) h⟩

/-- Connections whose IDs share a directory share a record, whatever the base directory and
whatever the values of the kind constants. -/
theorem absPath_eq_of_connection_dir_eq (k : Kinds) (b : String) {r₁ r₂ : Revision}
    (h₁ : r₁.type = k.connection) (h₂ : r₂.type = k.connection) (hdir : dir r₁.id = dir r₂.id) :
    r₁.absPath k b = r₂.absPath k b := by
  have hne : k.connection ≠ k.environment := Ne.symm k.distinct.1
  simp [Revision.absPath, Revision.filename, h₁, h₂, hne, k.distinct.2.2, hdir]

/-- Two connections of one host, `h/a` and `h/b`, share a record under every base directory. -/
theorem absPath_connections_share_record :
    let k : Kinds := ⟨⟨"environment"⟩, ⟨"connection"⟩, ⟨"provisioning_step"⟩, by decide⟩
    let r₁ : Revision := ⟨none, "h/a", k.connection, .unknown, 0, .zero, "", none⟩
    let r₂ : Revision := ⟨none, "h/b", k.connection, .unknown, 0, .zero, "", none⟩
    CleanID r₁.id ∧ CleanID r₂.id ∧ ¬ (r₁.type = k.environment ∧ r₂.type = k.environment) ∧
      (r₁.id, r₁.type) ≠ (r₂.id, r₂.type) ∧ ∀ b, r₁.absPath k b = r₂.absPath k b :=
  ⟨by decide, by decide, by decide, by decide,
    fun b => absPath_eq_of_connection_dir_eq _ b rfl rfl (by decide)⟩

end Laforge.Core
