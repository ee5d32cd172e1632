import Palette.Files.Tree

/-!
What edits do to the files of a tree. Making directories leaves every file as it is. Writing a file
changes the one place that its path leads to, and the path still leads there afterwards.

Edits and jobs are computations over a state that outlives their errors. The first part says what
such a computation keeps of its state, whether it succeeds or not.
-/

namespace Palette.Stateful

variable {ε σ τ α β : Type}

abbrev Computation (ε σ α : Type) := ExceptT ε (StateM σ) α

theorem run_bind (first : Computation ε σ α) (next : α → Computation ε σ β) (s : σ) :
    (first >>= next).run.run s =
      match first.run.run s with
      | (.ok value, after) => (next value).run.run after
      | (.error e, after) => (.error e, after) := by
  rw [ExceptT.run_bind, StateT.run_bind]
  generalize first.run.run s = ran
  rcases ran with ⟨_ | _, _⟩ <;> rfl

theorem run_tryCatch (first : Computation ε σ α) (handle : ε → Computation ε σ α) (s : σ) :
    (tryCatch first handle).run.run s =
      match first.run.run s with
      | (.ok value, after) => (.ok value, after)
      | (.error e, after) => (handle e).run.run after := by
  rw [ExceptT.run_tryCatch, StateT.run_bind]
  generalize first.run.run s = ran
  rcases ran with ⟨_ | _, _⟩ <;> rfl

theorem bind_error_cases {first : Computation ε σ α} {next : α → Computation ε σ β} {s after : σ}
    {e : ε} (failed : (first >>= next).run.run s = (.error e, after)) :
    first.run.run s = (.error e, after) ∨
      ∃ value middle, first.run.run s = (.ok value, middle) ∧
        (next value).run.run middle = (.error e, after) := by
  rw [run_bind] at failed
  generalize first.run.run s = ran at failed ⊢
  rcases ran with ⟨_ | value, middle⟩
  · obtain ⟨same, rfl⟩ := Prod.mk.inj failed
    obtain rfl := Except.error.inj same
    exact .inl rfl
  · exact .inr ⟨value, middle, rfl, failed⟩

theorem bind_ok_cases {first : Computation ε σ α} {next : α → Computation ε σ β} {s after : σ}
    {result : β} (succeeded : (first >>= next).run.run s = (.ok result, after)) :
    ∃ value middle, first.run.run s = (.ok value, middle) ∧
      (next value).run.run middle = (.ok result, after) := by
  rw [run_bind] at succeeded
  generalize first.run.run s = ran at succeeded ⊢
  rcases ran with ⟨_ | value, middle⟩
  · cases succeeded
  · exact ⟨value, middle, rfl, succeeded⟩

/-- The computation never changes what `view` shows of the state, whether it fails or not. -/
def Keeps (view : σ → τ) (computation : Computation ε σ α) : Prop :=
  ∀ s, view (computation.run.run s).2 = view s

namespace Keeps

variable {view : σ → τ} {first : Computation ε σ α}

theorem pure (value : α) : Keeps view (pure value : Computation ε σ α) := fun _ => rfl

theorem throw (e : ε) : Keeps view (throw e : Computation ε σ α) := fun _ => rfl

theorem get : Keeps view (get : Computation ε σ σ) := fun _ => rfl

theorem bind (keeps : Keeps view first) {next : α → Computation ε σ β}
    (later : ∀ value, Keeps view (next value)) : Keeps view (first >>= next) := by
  intro s
  have before := keeps s
  rw [run_bind]
  generalize first.run.run s = ran at before ⊢
  rcases ran with ⟨_ | value, after⟩
  · exact before
  · exact (later value after).trans before

theorem tryCatch (keeps : Keeps view first) {handle : ε → Computation ε σ α}
    (later : ∀ e, Keeps view (handle e)) : Keeps view (tryCatch first handle) := by
  intro s
  have before := keeps s
  rw [run_tryCatch]
  generalize first.run.run s = ran at before ⊢
  rcases ran with ⟨e | _, after⟩
  · exact (later e after).trans before
  · exact before

theorem forIn {body : β → PUnit → Computation ε σ (ForInStep PUnit)}
    (keeps : ∀ element result, Keeps view (body element result)) (elements : List β)
    (result : PUnit) : Keeps view (forIn elements result body) := by
  induction elements generalizing result with
  | nil => exact pure _
  | cons element elements ih =>
    rw [List.forIn_cons]
    refine (keeps element result).bind fun step => ?_
    cases step with
    | done result => exact pure _
    | yield result => exact ih result

end Keeps

/-- Whatever the computation fails with is an error of the class `P`. -/
def FailsAs (P : ε → Prop) (computation : Computation ε σ α) : Prop :=
  ∀ s after e, computation.run.run s = (.error e, after) → P e

namespace FailsAs

variable {P : ε → Prop} {first : Computation ε σ α}

theorem pure (value : α) : FailsAs P (pure value : Computation ε σ α) := by
  intro s after e failed
  cases failed

theorem throw {e : ε} (holds : P e) : FailsAs P (throw e : Computation ε σ α) := by
  intro s after other failed
  cases failed
  exact holds

theorem get : FailsAs P (get : Computation ε σ σ) := by
  intro s after e failed
  cases failed

theorem bind (fails : FailsAs P first) {next : α → Computation ε σ β}
    (later : ∀ value, FailsAs P (next value)) : FailsAs P (first >>= next) := by
  intro s after e failed
  rcases bind_error_cases failed with early | ⟨value, middle, _, late⟩
  · exact fails s after e early
  · exact later value middle after e late

theorem forIn {body : β → PUnit → Computation ε σ (ForInStep PUnit)}
    (fails : ∀ element result, FailsAs P (body element result)) (elements : List β)
    (result : PUnit) : FailsAs P (forIn elements result body) := by
  induction elements generalizing result with
  | nil => exact pure _
  | cons element elements ih =>
    rw [List.forIn_cons]
    refine (fails element result).bind fun step => ?_
    cases step with
    | done result => exact pure _
    | yield result => exact ih result

end FailsAs

end Palette.Stateful

namespace Palette.Files

namespace Tree

/-- The bytes of the file at a place, if there is one. -/
def content? (files : Tree) (place : Path) : Option (List UInt8) :=
  match files.at? place with
  | some (.file content) => some content
  | _ => none

theorem at?_put_of_ne {place other : Path} (different : other ≠ place) (entry : Entry)
    (files : Tree) :
    at? (Ordered.put place entry files : Tree) other = files.at? other := by
  simp [at?, Ordered.lookup_put, different]

theorem at?_put_self {place : Path} {files : Tree}
    (writable : files.at? place ≠ some .directory) (entry : Entry) :
    at? (Ordered.put place entry files : Tree) place = some entry := by
  cases upward : place.isUpward with
  | true => exact absurd (by simp [at?, upward]) writable
  | false => simp [at?, upward, Ordered.lookup_put]

theorem content?_put_of_ne {place other : Path} (different : other ≠ place) (entry : Entry)
    (files : Tree) :
    content? (Ordered.put place entry files : Tree) other = files.content? other := by
  rw [content?, at?_put_of_ne different, content?]

theorem content?_put_self {place : Path} {files : Tree}
    (writable : files.at? place ≠ some .directory) (content : List UInt8) :
    content? (Ordered.put place (.file content) files : Tree) place = some content := by
  rw [content?, at?_put_self writable]

theorem content?_put_directory {place : Path} {files : Tree} (free : files.at? place = none)
    (other : Path) :
    content? (Ordered.put place .directory files : Tree) other = files.content? other := by
  by_cases same : other = place
  · subst same
    rw [content?, at?_put_self (by simp [free]), content?, free]
  · exact content?_put_of_ne same _ _

/-- On their way paths meet directories only, so a file that is no directory changes no way. -/
theorem locate_put {place target : Path} {files : Tree}
    (writable : files.at? place ≠ some .directory) (content : List UInt8) {here : Path}
    {parts : List String} (located : files.locate here parts = .ok target) :
    locate (Ordered.put place (.file content) files : Tree) here parts = .ok target := by
  fun_induction locate files here parts with
  | case1 here => exact located
  | case2 here part rest tooLong => cases located
  | case3 here rest short ih => rw [locate, if_neg short, if_pos rfl, ih located]
  | case4 here part short named step =>
    rw [locate, if_neg short, if_neg named]
    exact located
  | case5 here part rest short named step directory more ih =>
    have other : step ≠ place := by
      rintro rfl
      exact writable directory
    have there :
        at? (Ordered.put place (.file content) files : Tree) step = some .directory := by
      rw [at?_put_of_ne other, directory]
    obtain ⟨next, others, rfl⟩ := List.exists_cons_of_ne_nil more
    rw [locate, if_neg short, if_neg named]
    simp only [step] at there ih
    simp only [there, ih located]
  | case6 => cases located
  | case7 => cases located

theorem getLast?_of_locate {files : Tree} {here place : Path} {parts : List String} {last : String}
    (located : files.locate here parts = .ok place) (ends : parts.getLast? = some last)
    (named : last ≠ "..") : place.parts.getLast? = some last := by
  fun_induction locate files here parts with
  | case1 here => cases ends
  | case2 here part rest tooLong => cases located
  | case3 here rest short ih =>
    cases rest with
    | nil => exact absurd (Option.some.inj ends).symm named
    | cons next others => exact ih located (by rwa [List.getLast?_cons_cons] at ends)
  | case4 here part short other step =>
    obtain rfl := Except.ok.inj located
    simpa [step] using ends
  | case5 here part rest short other step directory more ih =>
    obtain ⟨next, others, rfl⟩ := List.exists_cons_of_ne_nil more
    exact ih located (by rwa [List.getLast?_cons_cons] at ends)
  | case6 => cases located
  | case7 => cases located

theorem placeOf_eq_ok_iff {files : Tree} {path place : Path} :
    files.placeOf path = .ok place ↔
      path.toString.toList.contains (Char.ofNat 0) = false ∧
        path.toString.utf8ByteSize ≤ longestPath ∧
        files.locate { root := path.root } path.parts = .ok place := by
  rw [placeOf]
  split
  · next null =>
    refine iff_of_false (fun placed => by cases placed) fun conditions => ?_
    rw [conditions.1] at null
    cases null
  · next plain =>
    split
    · next long =>
      exact iff_of_false (fun placed => by cases placed) fun conditions =>
        absurd conditions.2.1 (Nat.not_le.mpr long)
    · next short =>
      cases files.locate { root := path.root } path.parts with
      | error cause =>
        exact iff_of_false (fun placed => by cases placed) fun ⟨_, _, way⟩ => by cases way
      | ok found =>
        constructor
        · intro placed
          obtain rfl : found = place := Except.ok.inj placed
          exact ⟨eq_false_of_ne_true plain, Nat.le_of_not_lt short, rfl⟩
        · rintro ⟨_, _, way⟩
          obtain rfl := Except.ok.inj way
          rfl

theorem placeOf_put {place target : Path} {files : Tree}
    (writable : files.at? place ≠ some .directory) (content : List UInt8) {path : Path}
    (located : files.placeOf path = .ok target) :
    placeOf (Ordered.put place (.file content) files : Tree) path = .ok target := by
  rw [placeOf_eq_ok_iff] at located ⊢
  exact ⟨located.1, located.2.1, locate_put writable content located.2.2⟩

structure Leads (files : Tree) (path place : Path) (content : List UInt8) : Prop where
  located : files.placeOf path = .ok place
  there : files.content? place = some content

theorem Leads.put {files : Tree} {path place other : Path} {content : List UInt8}
    (leads : files.Leads path place content) (different : place ≠ other)
    (writable : files.at? other ≠ some .directory) (bytes : List UInt8) :
    Leads (Ordered.put other (.file bytes) files : Tree) path place content :=
  ⟨placeOf_put writable bytes leads.located,
    (content?_put_of_ne different _ _).trans leads.there⟩

theorem getLast?_of_placeOf {files : Tree} {path place : Path} {last : String}
    (located : files.placeOf path = .ok place) (ends : path.parts.getLast? = some last)
    (named : last ≠ "..") : place.parts.getLast? = some last :=
  getLast?_of_locate (placeOf_eq_ok_iff.mp located).2.2 ends named

end Tree

namespace Edit

open Stateful

theorem run_find (path : Path) (files : Tree) :
    (find path).run.run files =
      match files.placeOf path with
      | .ok place => (.ok (place, files.at? place), files)
      | .error e => (.error e, files) := by
  rw [find, run_bind]
  change ((ExceptT.mk (pure (files.placeOf path)) >>= fun place =>
    pure (place, files.at? place) : Edit _).run.run files) = _
  rw [run_bind]
  cases files.placeOf path <;> rfl

theorem run_write (path : Path) (content : List UInt8) (files : Tree) :
    (write path content).run.run files =
      match files.placeOf path with
      | .ok place =>
          if files.at? place = some .directory then (.error ⟨.isDirectory, path⟩, files)
          else (.ok (), Ordered.put place (.file content) files)
      | .error e => (.error e, files) := by
  rw [write, run_bind, run_find]
  cases files.placeOf path with
  | error e => rfl
  | ok place =>
    dsimp only
    generalize files.at? place = entry
    rcases entry with _ | _ | _ <;> rfl

theorem makeDirectory_cases (path : Path) (files : Tree) :
    ((makeDirectory path).run.run files).2 = files ∨
      ∃ place, files.at? place = none ∧
        ((makeDirectory path).run.run files).2 = Ordered.put place .directory files := by
  rw [makeDirectory, run_bind, run_find]
  cases files.placeOf path with
  | error e => exact .inl rfl
  | ok place =>
    dsimp only
    cases entry : files.at? place with
    | none => exact .inr ⟨place, entry, rfl⟩
    | some there => exact .inl rfl

theorem keeps_makeDirectory (path : Path) : Keeps Tree.content? (makeDirectory path) := by
  intro files
  rcases makeDirectory_cases path files with same | ⟨place, free, made⟩
  · rw [same]
  · rw [made]
    exact funext (Tree.content?_put_directory free)

theorem keeps_ensureDirectory (path : Path) : Keeps Tree.content? (ensureDirectory path) := by
  refine (keeps_makeDirectory path).tryCatch fun e => Keeps.get.bind fun files => ?_
  split
  · exact .throw e
  · exact .pure ()

theorem keeps_ensureParts (root : String) (parts : List String) :
    Keeps Tree.content? (ensureParts root parts) := by
  induction parts with
  | nil => exact keeps_ensureDirectory _
  | cons part above ih =>
    refine (keeps_ensureDirectory _).tryCatch fun e => ?_
    split
    · exact ih.bind fun _ => keeps_ensureDirectory _
    · exact .throw e

theorem keeps_ensureDirectories (path : Path) : Keeps Tree.content? (ensureDirectories path) :=
  keeps_ensureParts path.root _

theorem touch_cases (path : Path) (files : Tree) :
    ((touch path).run.run files).2 = files ∨
      ∃ place, files.at? place = none ∧
        ((touch path).run.run files).2 = Ordered.put place (.file []) files := by
  rw [touch, run_bind, run_find]
  cases files.placeOf path with
  | error e => exact .inl rfl
  | ok place =>
    dsimp only
    cases entry : files.at? place with
    | none => exact .inr ⟨place, entry, rfl⟩
    | some there => exact .inl rfl

/-- The file of a path has been written, and no other file has changed. -/
def Wrote (path : Path) (content : List UInt8) (before after : Tree) : Prop :=
  ∃ place, after.placeOf path = .ok place ∧ after.content? place = some content ∧
    ∀ other, other ≠ place → after.content? other = before.content? other

theorem wrote_put {place path : Path} {files : Tree} (located : files.placeOf path = .ok place)
    (writable : files.at? place ≠ some .directory) (content : List UInt8) :
    Wrote path content files (Ordered.put place (.file content) files) :=
  ⟨place, Tree.placeOf_put writable content located, Tree.content?_put_self writable content,
    fun _ different => Tree.content?_put_of_ne different _ _⟩

theorem wrote_of_run {path : Path} {content : List UInt8} {before after : Tree}
    (written : (write path content).run.run before = (.ok (), after)) :
    Wrote path content before after := by
  rw [run_write] at written
  split at written
  · next place located =>
    split at written
    · cases written
    · next writable =>
      obtain ⟨_, rfl⟩ := Prod.mk.inj written
      exact wrote_put located writable content
  · cases written

theorem Wrote.run_write {path : Path} {content : List UInt8} {before middle : Tree}
    (wrote : Wrote path content before middle) (other : List UInt8) :
    ∃ after, (write path other).run.run middle = (.ok (), after) ∧
      Wrote path other before after := by
  obtain ⟨place, located, there, rest⟩ := wrote
  have writable : middle.at? place ≠ some .directory := by
    intro directory
    rw [Tree.content?, directory] at there
    cases there
  refine ⟨Ordered.put place (.file other) middle, ?_, place,
    Tree.placeOf_put writable other located, Tree.content?_put_self writable other,
    fun elsewhere different => ?_⟩
  · rw [Edit.run_write, located]
    exact if_neg writable
  · rw [Tree.content?_put_of_ne different, rest elsewhere different]

theorem Wrote.leads {path : Path} {content : List UInt8} {before after : Tree}
    (wrote : Wrote path content before after) : ∃ place, after.Leads path place content := by
  obtain ⟨place, located, there, _⟩ := wrote
  exact ⟨place, located, there⟩

theorem Wrote.of_same_files {path : Path} {content : List UInt8} {earlier before after : Tree}
    (same : before.content? = earlier.content?) (wrote : Wrote path content before after) :
    Wrote path content earlier after := by
  obtain ⟨place, located, there, rest⟩ := wrote
  exact ⟨place, located, there, fun other different => by rw [rest other different, same]⟩

section

variable {files after : Tree} {path place other : Path} {content bytes : List UInt8}

theorem leads_of_write (leads : files.Leads path place content)
    (written : (write other bytes).run.run files = (.ok (), after))
    (elsewhere : files.placeOf other ≠ .ok place) : after.Leads path place content := by
  rw [run_write] at written
  split at written
  · next target located =>
    split at written
    · cases written
    · next writable =>
      obtain ⟨_, rfl⟩ := Prod.mk.inj written
      refine leads.put ?_ writable bytes
      rintro rfl
      exact elsewhere located
  · cases written

theorem leads_of_touch (leads : files.Leads path place content) (other : Path) :
    ((touch other).run.run files).2.Leads path place content := by
  rcases touch_cases other files with same | ⟨target, free, made⟩
  · rw [same]
    exact leads
  · rw [made]
    refine leads.put ?_ (by simp [free]) []
    rintro rfl
    have there := leads.there
    rw [Tree.content?, free] at there
    cases there

end

end Edit

end Palette.Files
