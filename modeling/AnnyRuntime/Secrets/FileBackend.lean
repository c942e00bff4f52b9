import AnnyRuntime.Lib.Dict
import AnnyRuntime.Lib.Path
import AnnyRuntime.Secrets.Broker

/-!
# The file secret backend

Every secret is encrypted in a file of its own, whose name is the reference.  A reference is
rejected when it has a character that is not safe, or when it leads out of the directory of the
secrets.  A secret is overwritten in place: `open(path, "wb")` empties the file before the first
byte of the new secret is written.

What the file system, the encryption and a crash do is given: the names that a file can have, tokens
that decrypt to their value, and how many bytes of a token are missing when the process ends.

* `eq_of_locate` : two references that are accepted never name one file.
* `names_iff_text` : which references that are not rejected name a file.
* `store_of_locate`, `retrieve_of_locate`, `delete_of_locate`, `interrupted_of_locate` : what each
  call does with the file of its reference.
-/

namespace AnnyRuntime

namespace Secrets

namespace FileSecretBackend

/-! ### The backend -/

/-- What a call raises. -/
inductive Raised where
  /-- `ValueError("UNSAFE_REFERENCE")`. -/
  | unsafeReference
  /-- The `OSError` of a path that is no file. -/
  | osError
  deriving DecidableEq

/-- The directory of the secrets, and what the backend is built on. -/
structure Host where
  /-- `self.secrets_dir.resolve()`. -/
  dir : AbsPath
  /-- The characters that `\w` matches. -/
  word : Char → Bool
  /-- The names that a file can have. -/
  holds : PathName → Bool
  /-- `iterdir`, which lists the names in some order. -/
  iterdir : List PathName → List PathName
  /-- `Fernet.encrypt`, whose token is another one each time. -/
  encrypt : ℕ → List UInt8 → List UInt8
  /-- `Fernet.decrypt`, or `InvalidToken`. -/
  decrypt : List UInt8 → Option (List UInt8)

/-- A separator is no letter, a directory is listed as it is, a token is not empty and decrypts to
its value, and a part of a token is no token. -/
structure Host.Lawful (H : Host) : Prop where
  word : H.word '/' = false
  iterdir : ∀ names, (H.iterdir names).Perm names
  encrypt_ne_nil : ∀ n value, H.encrypt n value ≠ []
  decrypt_encrypt : ∀ n value, H.decrypt (H.encrypt n value) = some value
  decrypt_take : ∀ n value k, k < (H.encrypt n value).length →
    H.decrypt ((H.encrypt n value).take k) = none

/-- The files in the directory, and how many values have been encrypted. -/
structure Files where
  contents : Dict PathName (List UInt8)
  encrypted : ℕ

/-- The directory when the backend is made. -/
def Files.new : Files := ⟨Dict.empty, 0⟩

namespace Host

variable (H : Host)

/-- `[\w\-\.]+`. -/
def safeChars (cs : List Char) : Bool :=
  !cs.isEmpty && cs.all fun c => H.word c || c == '-' || c == '.'

/-- `re.match(r'^[\w\-\.]+$', reference)`.  The `$` also matches before a last line feed. -/
def matchesSafe (reference : String) : Bool :=
  H.safeChars reference.toList ||
    (reference.toList.getLast? == some '\n' && H.safeChars reference.toList.dropLast)

/-- `_safe_reference`. -/
def safeReference (reference : String) : Except Raised AbsPath :=
  if !H.matchesSafe reference then .error .unsafeReference
  else
    let path := AbsPath.lexical H.dir reference.toList
    if H.dir.text.isPrefixOf path.text then .ok path else .error .unsafeReference

/-- The file of a path, which is in the directory, or the error of opening the path. -/
def file (path : AbsPath) : Except Raised PathName :=
  match path.getLast? with
  | some name => if path = H.dir ++ [name] ∧ H.holds name then .ok name else .error .osError
  | none => .error .osError

/-- `path.exists()`. -/
def pathExists (path : AbsPath) (s : Files) : Except Raised Bool :=
  if path = H.dir then .ok true else (H.file path).map s.contents.contains

/-- `store`. -/
def store (reference : String) (value : List UInt8) (s : Files) : Except Raised Bool × Files :=
  match H.safeReference reference with
  | .error e => (.error e, s)
  | .ok path =>
    match H.file path with
    | .error e => (.error e, { s with encrypted := s.encrypted + 1 })
    | .ok name =>
      (.ok true, ⟨s.contents.set name (H.encrypt s.encrypted value), s.encrypted + 1⟩)

/-- `retrieve`. -/
def retrieve (reference : String) (s : Files) : Except Raised (Option (List UInt8)) := do
  let path ← H.safeReference reference
  if ← H.pathExists path s then
    let name ← H.file path
    return (s.contents.get? name).bind H.decrypt
  else
    return none

/-- `delete`. -/
def delete (reference : String) (s : Files) : Except Raised Bool × Files :=
  match H.safeReference reference with
  | .error e => (.error e, s)
  | .ok path =>
    match H.pathExists path s with
    | .error e => (.error e, s)
    | .ok false => (.ok false, s)
    | .ok true =>
      match H.file path with
      | .error e => (.error e, s)
      | .ok name => (.ok true, { s with contents := s.contents.erase name })

/-- `exists`. -/
def exists' (reference : String) (s : Files) : Except Raised Bool := do
  let path ← H.safeReference reference
  H.pathExists path s

/-- `list_references`.  The directory has nothing but files. -/
def listReferences (s : Files) : List String :=
  (H.iterdir s.contents.keys).map fun name => String.ofList name.text

/-- `FileSecretBackend`. -/
def backend : SecretBackend Files Raised where
  store := H.store
  retrieve := H.retrieve
  delete := H.delete
  exists' := H.exists'
  listReferences s := .ok (H.listReferences s)

end Host

/-- Where the process ends in a store. -/
inductive Crash where
  /-- Before the file is opened. -/
  | beforeOpen
  /-- In the file, or after it: so many bytes of the token are missing. -/
  | missing (bytes : ℕ)
  deriving DecidableEq

/-- The files that a store leaves that the process ends in. -/
def Host.interruptedStore (H : Host) (reference : String) (value : List UInt8) (crash : Crash)
    (s : Files) : Files :=
  match H.safeReference reference with
  | .error _ => s
  | .ok path =>
    match crash, H.file path with
    | .missing bytes, .ok name =>
      let token := H.encrypt s.encrypted value
      ⟨s.contents.set name (token.take (token.length - bytes)), s.encrypted + 1⟩
    | _, _ => { s with encrypted := s.encrypted + 1 }

/-! ### References and files -/

variable {H : Host} {r : String} {name : PathName} {e : Raised}

/-- The reference is rejected, or names a file that can be in the directory. -/
def Host.Names (H : Host) (reference : String) : Prop :=
  ∀ path, H.safeReference reference = .ok path →
    ∃ name, path = H.dir ++ [name] ∧ H.holds name = true

/-- The file of a reference. -/
def Host.locate (H : Host) (reference : String) : Except Raised PathName := do
  H.file (← H.safeReference reference)

theorem file_eq_ok_iff {path : AbsPath} :
    H.file path = .ok name ↔ path = H.dir ++ [name] ∧ H.holds name = true := by
  constructor
  · intro h
    rw [Host.file] at h
    split at h
    · split_ifs at h with hname
      exact Except.ok.inj h ▸ hname
    · cases h
  · rintro ⟨rfl, hholds⟩
    simp [Host.file, hholds]

theorem file_eq_error {path : AbsPath} (h : H.file path = .error e) : e = .osError := by
  rw [Host.file] at h
  split at h
  · split_ifs at h
    exact (Except.error.inj h).symm
  · exact (Except.error.inj h).symm

theorem locate_of_safeReference {path : AbsPath} (h : H.safeReference r = .ok path) :
    H.locate r = H.file path := by
  rw [Host.locate, h]
  rfl

theorem locate_of_error (h : H.safeReference r = .error e) : H.locate r = .error e := by
  rw [Host.locate, h]
  rfl

theorem locate_eq_ok_iff :
    H.locate r = .ok name ↔
      H.safeReference r = .ok (H.dir ++ [name]) ∧ H.holds name = true := by
  cases h : H.safeReference r with
  | error e => simp [locate_of_error h]
  | ok path => rw [locate_of_safeReference h, file_eq_ok_iff, Except.ok.injEq]

theorem eq_of_locate_error {e' : Raised} (h : H.locate r = .error e)
    (hsafe : H.safeReference r = .error e') : e' = e :=
  Except.error.inj ((locate_of_error hsafe).symm.trans h)

theorem names_iff : H.Names r ↔ H.locate r ≠ .error .osError := by
  rw [Host.Names]
  cases hsafe : H.safeReference r with
  | error e =>
    have he : e = .unsafeReference := by
      rw [Host.safeReference] at hsafe
      simp only at hsafe
      split_ifs at hsafe <;> exact (Except.error.inj hsafe).symm
    simp [locate_of_error hsafe, he]
  | ok path =>
    rw [locate_of_safeReference hsafe]
    simp only [Except.ok.injEq, forall_eq']
    cases hfile : H.file path with
    | error e =>
      rw [file_eq_error hfile]
      refine iff_of_false ?_ (fun h => h rfl)
      rintro ⟨name, hname⟩
      rw [file_eq_ok_iff.2 hname] at hfile
      cases hfile
    | ok name => exact iff_of_true ⟨name, file_eq_ok_iff.1 hfile⟩ nofun

theorem eq_ok_or_unsafe (h : H.Names r) :
    (∃ name, H.locate r = .ok name) ∨ H.locate r = .error .unsafeReference := by
  have hne := names_iff.1 h
  cases hr : H.locate r with
  | ok name => exact .inl ⟨name, rfl⟩
  | error e =>
    cases e with
    | unsafeReference => exact .inr rfl
    | osError => exact absurd hr hne

theorem names_of_ok (h : H.locate r = .ok name) : H.Names r := by
  rw [names_iff, h]
  exact nofun

theorem names_of_unsafe (h : H.locate r = .error .unsafeReference) : H.Names r := by
  rw [names_iff, h]
  exact nofun

theorem notMem_of_safeChars (hH : H.Lawful) {cs : List Char} (h : H.safeChars cs = true) :
    '/' ∉ cs := by
  intro hmem
  rw [Host.safeChars, Bool.and_eq_true, List.all_eq_true] at h
  simpa [hH.word] using h.2 '/' hmem

/-- A reference that matches has no separator. -/
theorem notMem_of_matchesSafe (hH : H.Lawful) (h : H.matchesSafe r = true) : '/' ∉ r.toList := by
  rw [Host.matchesSafe, Bool.or_eq_true, Bool.and_eq_true, beq_iff_eq] at h
  rcases h with hsafe | ⟨hlast, hsafe⟩
  · exact notMem_of_safeChars hH hsafe
  · obtain ⟨init, hinit⟩ := List.getLast?_eq_some_iff.1 hlast
    rw [hinit, List.dropLast_concat] at hsafe
    rw [hinit, List.mem_append, not_or]
    exact ⟨notMem_of_safeChars hH hsafe, by simp⟩

/-- A reference that matches is followed as one component. -/
theorem lexical_of_matchesSafe (hH : H.Lawful) (h : H.matchesSafe r = true) :
    AbsPath.lexical H.dir r.toList = AbsPath.step H.dir r.toList := by
  have hsep : '/' ∉ r.toList := notMem_of_matchesSafe hH h
  have hhead : ¬ r.toList.head? = some '/' := fun hhead => hsep (List.mem_of_head? hhead)
  have hsplit : r.toList.splitOn '/' = [r.toList] := by
    refine List.splitOnP_eq_singleton fun x hx => ?_
    rw [beq_eq_false_iff_ne]
    exact fun hx' => hsep (hx' ▸ hx)
  rw [AbsPath.lexical, hsplit, if_neg hhead, List.foldl_cons, List.foldl_nil]

/-- **References and files.**  The name of the file is the reference. -/
theorem eq_of_locate (hH : H.Lawful) (h : H.locate r = .ok name) : r = String.ofList name.text := by
  obtain ⟨hsafe, -⟩ := locate_eq_ok_iff.1 h
  rw [Host.safeReference] at hsafe
  simp only at hsafe
  split_ifs at hsafe with hmatch
  have hstep := Except.ok.inj hsafe
  rw [lexical_of_matchesSafe hH (by simpa using hmatch), AbsPath.step] at hstep
  split_ifs at hstep with hdots hname
  · exact absurd (congrArg List.length hstep) (by simp)
  · rw [List.append_cancel_left_eq, List.cons.injEq] at hstep
    rw [← hstep.1, String.ofList_toList]
  · exact absurd (congrArg List.length hstep) (by simp)

/-- The parent of the directory is out of it, unless there is none. -/
theorem not_isPrefix_dropLast {dir : AbsPath} (h : dir ≠ []) :
    ¬ AbsPath.text dir <+: AbsPath.text dir.dropLast := by
  intro hpre
  have hpos := List.length_pos_iff.2 h
  rcases AbsPath.text_isPrefix_iff.1 hpre with hdir | ⟨init, c, d, rest, hdir, hdrop, -⟩
  · have hlength := hdir.length_le
    rw [List.length_dropLast] at hlength
    omega
  · have hlength := congrArg List.length hdrop
    rw [hdir] at hlength
    simp at hlength

/-- The condition on a reference, in its text. -/
theorem names_iff_text (hH : H.Lawful) (hmatch : H.matchesSafe r = true) :
    H.Names r ↔ r ≠ "." ∧ (r = ".." → H.dir ≠ []) ∧
      ∀ name : PathName, name.text = r.toList → H.holds name = true := by
  have hsafe : H.safeReference r =
      if H.dir.text.isPrefixOf (AbsPath.step H.dir r.toList).text then
        .ok (AbsPath.step H.dir r.toList) else .error .unsafeReference := by
    rw [Host.safeReference, hmatch, lexical_of_matchesSafe hH hmatch]
    rfl
  rw [Host.Names, hsafe]
  by_cases hup : r = ".."
  · subst hup
    have hstep : AbsPath.step H.dir "..".toList = H.dir.dropLast := if_pos (by decide)
    rw [hstep]
    by_cases hdir : H.dir = []
    · refine iff_of_false ?_ fun h => h.2.1 rfl hdir
      simp [hdir]
    · have hpre := mt List.isPrefixOf_iff_prefix.1 (not_isPrefix_dropLast hdir)
      rw [if_neg hpre]
      refine iff_of_true nofun ⟨by decide, fun _ => hdir, fun name hname => ?_⟩
      exact absurd hname name.ok.2.2.2
  by_cases hdot : r = "."
  · subst hdot
    have hstep : AbsPath.step H.dir ".".toList = H.dir := by
      rw [AbsPath.step, if_neg (by decide), dif_neg (by decide)]
    rw [hstep, if_pos (List.isPrefixOf_iff_prefix.2 List.prefix_rfl)]
    refine iff_of_false (fun h => ?_) fun h => h.1 rfl
    obtain ⟨name, hname, -⟩ := h _ rfl
    simp at hname
  have hok : r.toList ≠ [] ∧ '/' ∉ r.toList ∧ r.toList ≠ ['.'] ∧ r.toList ≠ ['.', '.'] := by
    refine ⟨?_, notMem_of_matchesSafe hH hmatch, fun h => hdot (String.toList_injective h),
      fun h => hup (String.toList_injective h)⟩
    intro hnil
    simp [Host.matchesSafe, Host.safeChars, hnil] at hmatch
  have hstep : AbsPath.step H.dir r.toList = H.dir ++ [⟨r.toList, hok⟩] := by
    rw [AbsPath.step, if_neg hok.2.2.2, dif_pos hok]
  have hpre : H.dir.text <+: (H.dir ++ [(⟨r.toList, hok⟩ : PathName)]).text :=
    AbsPath.text_isPrefix_iff.2 (.inl (List.prefix_append _ _))
  rw [hstep, if_pos (List.isPrefixOf_iff_prefix.2 hpre)]
  constructor
  · intro h
    obtain ⟨name, hname, hholds⟩ := h _ rfl
    rw [List.append_cancel_left_eq, List.cons.injEq] at hname
    refine ⟨hdot, fun h => absurd h hup, fun name' hname' => ?_⟩
    obtain rfl : name' = name := PathName.ext (by rw [hname', ← hname.1])
    exact hholds
  · rintro ⟨-, -, hholds⟩ path hpath
    exact ⟨⟨r.toList, hok⟩, (Except.ok.inj hpath).symm, hholds _ rfl⟩

/-! ### What the calls do -/

theorem store_of_locate (h : H.locate r = .ok name) (value : List UInt8) (s : Files) :
    H.store r value s =
      (.ok true, ⟨s.contents.set name (H.encrypt s.encrypted value), s.encrypted + 1⟩) := by
  obtain ⟨hsafe, hholds⟩ := locate_eq_ok_iff.1 h
  simp only [Host.store, hsafe, file_eq_ok_iff.2 ⟨rfl, hholds⟩]

theorem store_of_locate_error (h : H.locate r = .error e) (value : List UInt8) (s : Files) :
    (H.store r value s).1 = .error e ∧ (H.store r value s).2.contents = s.contents := by
  rw [Host.store]
  cases hsafe : H.safeReference r with
  | error e' =>
    obtain rfl := eq_of_locate_error h hsafe
    exact ⟨rfl, rfl⟩
  | ok path =>
    rw [locate_of_safeReference hsafe] at h
    simp only [h, and_self]

theorem store_of_unsafe (h : H.locate r = .error .unsafeReference) (value : List UInt8)
    (s : Files) : H.store r value s = (.error .unsafeReference, s) := by
  rw [Host.store]
  cases hsafe : H.safeReference r with
  | error e =>
    obtain rfl := eq_of_locate_error h hsafe
    rfl
  | ok path =>
    rw [locate_of_safeReference hsafe] at h
    cases file_eq_error h

theorem pathExists_of_holds (hholds : H.holds name = true) (s : Files) :
    H.pathExists (H.dir ++ [name]) s = .ok (s.contents.contains name) := by
  rw [Host.pathExists, if_neg (by simp), file_eq_ok_iff.2 ⟨rfl, hholds⟩]
  rfl

theorem retrieve_of_locate (h : H.locate r = .ok name) (s : Files) :
    H.retrieve r s = .ok ((s.contents.get? name).bind H.decrypt) := by
  obtain ⟨hsafe, hholds⟩ := locate_eq_ok_iff.1 h
  have hretrieve : H.retrieve r s = if s.contents.contains name then
      .ok ((s.contents.get? name).bind H.decrypt) else .ok none := by
    rw [Host.retrieve, hsafe]
    simp only [bind, Except.bind, pathExists_of_holds hholds, file_eq_ok_iff.2 ⟨rfl, hholds⟩]
    rfl
  rw [hretrieve]
  cases hget : s.contents.get? name <;> simp [Dict.contains, hget]

theorem retrieve_of_locate_error (h : H.locate r = .error e) (s : Files) :
    H.retrieve r s = .error e := by
  cases hsafe : H.safeReference r with
  | error e' =>
    obtain rfl := eq_of_locate_error h hsafe
    rw [Host.retrieve, hsafe]
    rfl
  | ok path =>
    rw [locate_of_safeReference hsafe] at h
    rw [Host.retrieve, hsafe]
    simp only [bind, Except.bind, Host.pathExists, h]
    by_cases hdir : path = H.dir
    · rw [if_pos hdir]
      rfl
    · rw [if_neg hdir]
      rfl

theorem delete_of_locate (h : H.locate r = .ok name) (s : Files) :
    (H.delete r s).1 = .ok (s.contents.contains name) ∧
      ∀ n, (H.delete r s).2.contents.get? n = if n = name then none else s.contents.get? n := by
  obtain ⟨hsafe, hholds⟩ := locate_eq_ok_iff.1 h
  simp only [Host.delete, hsafe, pathExists_of_holds hholds]
  cases hget : s.contents.contains name with
  | false =>
    refine ⟨rfl, fun n => ?_⟩
    split_ifs with hn
    · subst hn
      simpa [Dict.contains] using hget
    · rfl
  | true =>
    simp only [file_eq_ok_iff.2 ⟨rfl, hholds⟩]
    exact ⟨trivial, fun n => Dict.get?_erase name n⟩

theorem delete_of_locate_error (h : H.locate r = .error e) (s : Files) :
    H.delete r s = (.error e, s) := by
  cases hsafe : H.safeReference r with
  | error e' =>
    obtain rfl := eq_of_locate_error h hsafe
    rw [Host.delete, hsafe]
  | ok path =>
    rw [locate_of_safeReference hsafe] at h
    simp only [Host.delete, hsafe, Host.pathExists, h]
    by_cases hdir : path = H.dir
    · simp only [if_pos hdir]
    · simp only [if_neg hdir, Except.map]

theorem interrupted_of_locate_error (h : H.locate r = .error e) (value : List UInt8) (crash : Crash)
    (s : Files) : (H.interruptedStore r value crash s).contents = s.contents := by
  rw [Host.interruptedStore]
  cases hsafe : H.safeReference r with
  | error e' => rfl
  | ok path =>
    rw [locate_of_safeReference hsafe] at h
    cases crash <;> simp only [h]

theorem interrupted_beforeOpen (r : String) (value : List UInt8) (s : Files) :
    (H.interruptedStore r value .beforeOpen s).contents = s.contents := by
  rw [Host.interruptedStore]
  cases H.safeReference r <;> rfl

theorem interrupted_of_locate (h : H.locate r = .ok name) (value : List UInt8) (bytes : ℕ)
    (s : Files) :
    H.interruptedStore r value (.missing bytes) s =
      ⟨s.contents.set name ((H.encrypt s.encrypted value).take
        ((H.encrypt s.encrypted value).length - bytes)), s.encrypted + 1⟩ := by
  obtain ⟨hsafe, hholds⟩ := locate_eq_ok_iff.1 h
  simp only [Host.interruptedStore, hsafe, file_eq_ok_iff.2 ⟨rfl, hholds⟩]

end FileSecretBackend

end Secrets

end AnnyRuntime
