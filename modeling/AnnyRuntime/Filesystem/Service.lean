import AnnyRuntime.Filesystem.Boundary
import AnnyRuntime.Lib.PyString
import AnnyRuntime.Security.Pipeline

/-!
# Reading, writing and patching files

`FilesystemService` reads a file with universal newlines, and writes one by truncating it and then
encoding the new content.  `patch` reads, replaces and writes.  So

* what is read back differs from what was written when that has a carriage return,
* a patch also rewrites the line endings of the rest of the file, and misses occurrences that have
  one, and
* content that cannot be encoded leaves the file empty.

`edit_iff` says exactly when an edit is local and all-or-nothing.

Opening a file for writing (and making its directories) may fail; a write to an open file does not.
-/

namespace AnnyRuntime

namespace Filesystem

open Pipeline (ExecutionContext)

/-- What the service raises. -/
inductive Raised where
  | permissionError (message : String)
  | valueError (message : String)
  | fileNotFoundError (message : String)
  | unicodeDecodeError
  | unicodeEncodeError
  /-- What opening a file for writing raises. -/
  | osError
  /-- What the workspace manager raises. -/
  | contextAccessError (message : String)
  deriving DecidableEq

/-- The bytes of the files, by the paths they are at. -/
abbrev Files := AbsPath → Option (List UInt8)

/-- The service, and what is around it. -/
structure FilesystemService where
  resolve : Resolve
  /-- `WorkspaceManager.status`: the local path of a workspace, if there is one. -/
  status : ExecutionContext → String → Except Raised (Option (List Char))
  /-- A file can be opened for writing. -/
  openable : AbsPath → Bool

namespace FilesystemService

variable (s : FilesystemService)

/-- `_resolve_safe_path`.  A path that cannot be resolved raises as well. -/
def safePath (c : ExecutionContext) (path : List Char) : Except Raised AbsPath :=
  match c.workspaceId with
  | none => .error (.valueError "No workspace_id in context")
  | some id => do
    Guard.ensure (id ≠ "") (.valueError "No workspace_id in context")
    match ← s.status c id with
    | none => .error (.valueError "Workspace not found")
    | some localPath =>
      match resolveSafePath s.resolve localPath path with
      | none => .error (.valueError "OUTSIDE_WORKSPACE error")
      | some p => .ok p

/-- The checks before a file is looked at, with the capability that they ask for. -/
def authorize (capability : String) (c : ExecutionContext) (path : List Char) :
    Except Raised AbsPath := do
  Guard.ensure (c.hasCapability capability = true)
    (.permissionError ("Access denied: missing " ++ capability ++ " capability"))
  Guard.ensure (c.hasWorkspace = true) (.permissionError "Access denied: missing workspace scope")
  s.safePath c path

/-- What a reader of a file finds. -/
def readFile (files : Files) (p : AbsPath) : Except Raised (List Char) :=
  match files p with
  | none => .error (.fileNotFoundError "File not found")
  | some b =>
    match Text.ofBytes b with
    | none => .error .unicodeDecodeError
    | some cs => .ok (Text.universalNewlines cs)

/-- `read`. -/
def read (c : ExecutionContext) (path : List Char) (files : Files) :
    Except Raised (List Char) := do
  readFile files (← s.authorize "FILE_READ" c path)

/-- A file is opened for writing, which empties it, and its content is encoded and written. -/
def writeFile (p : AbsPath) (content : PyStr) (files : Files) : Except Raised Bool × Files :=
  if s.openable p = false then (.error .osError, files)
  else
    match PyStr.encode? content with
    | none => (.error .unicodeEncodeError, Function.update files p (some []))
    | some b => (.ok true, Function.update files p (some b))

/-- `write`. -/
def write (c : ExecutionContext) (path : List Char) (content : PyStr) (files : Files) :
    Except Raised Bool × Files :=
  match s.authorize "FILE_WRITE" c path with
  | .error e => (.error e, files)
  | .ok p => s.writeFile p content files

/-- `patch`. -/
def patch (c : ExecutionContext) (path : List Char) (search replace : PyStr) (files : Files) :
    Except Raised Bool × Files :=
  if c.hasCapability "FILE_WRITE" = false then
    (.error (.permissionError "Access denied: missing FILE_WRITE capability"), files)
  else
    match s.read c path files with
    | .error e => (.error e, files)
    | .ok content =>
      let patched := Text.replaceAll search replace (PyStr.ofChars content)
      if patched = PyStr.ofChars content then (.ok false, files)
      else s.write c path patched files

end FilesystemService

/-! ### Edits -/

/-- An edit of a file. -/
inductive Edit where
  | write (content : PyStr)
  | patch (search replace : PyStr)
  deriving DecidableEq

/-- An edit is made. -/
def Edit.run (s : FilesystemService) (c : ExecutionContext) (path : List Char) (files : Files) :
    Edit → Except Raised Bool × Files
  | .write content => s.write c path content files
  | .patch search replace => s.patch c path search replace files

/-- An edit did to a file what it is for: a written text is what a reader finds, and a patch
replaced the occurrences in the bytes of the file and nothing else. -/
def Edit.Done (before after : Files) (p : AbsPath) : Edit → Prop
  | .write content =>
    ∃ cs, FilesystemService.readFile after p = .ok cs ∧ PyStr.ofChars cs = content
  | .patch search replace =>
    ∃ cs, before p = some (Text.bytes cs) ∧
      after p = PyStr.encode? (Text.replaceAll search replace (PyStr.ofChars cs))

/-- **An edit is local and all-or-nothing.** -/
structure Edit.Sound (s : FilesystemService) (c : ExecutionContext) (path : List Char)
    (files : Files) (e : Edit) : Prop where
  /-- A failed edit changes nothing. -/
  failed : ∀ r, (e.run s c path files).1 = .error r → (e.run s c path files).2 = files
  /-- Other files are left alone. -/
  frame : ∀ p, s.safePath c path ≠ .ok p → (e.run s c path files).2 p = files p
  /-- An edit that returns is done. -/
  done : ∀ b, (e.run s c path files).1 = .ok b →
    ∃ p, s.safePath c path = .ok p ∧ e.Done files (e.run s c path files).2 p

/-- **When writing is sound**: the content has no carriage return, or it cannot be encoded and the
file is empty anyway. -/
def WriteHolds (before : Option (List UInt8)) (content : PyStr) : Prop :=
  (∃ cs, content = PyStr.ofChars cs ∧ '\r' ∉ cs) ∨
    PyStr.encode? content = none ∧ before = some []

/-- **When patching is sound**, for a file of a text: replacing in what a reader sees of it gives
what replacing in the text itself gives, or changes nothing in either; or the result cannot be
encoded and the file is empty anyway. -/
def PatchHolds (openable : Bool) (search replace : PyStr) (cs : List Char) : Prop :=
  let seen := Text.replaceAll search replace (PyStr.ofChars (Text.universalNewlines cs))
  let raw := Text.replaceAll search replace (PyStr.ofChars cs)
  if seen = PyStr.ofChars (Text.universalNewlines cs) then raw = PyStr.ofChars cs
  else
    openable = true →
      (PyStr.encode? seen).isSome = true ∧ seen = raw ∨ PyStr.encode? seen = none ∧ cs = []

/-- **When an edit is sound**: it is not authorized, the file cannot be opened or read, or the edit
is sound for its content. -/
def Edit.Holds (s : FilesystemService) (c : ExecutionContext) (path : List Char) (files : Files) :
    Edit → Prop
  | .write content =>
    ∀ p, s.authorize "FILE_WRITE" c path = .ok p → s.openable p = true →
      WriteHolds (files p) content
  | .patch search replace =>
    ∀ p, s.authorize "FILE_WRITE" c path = .ok p → c.hasCapability "FILE_READ" = true →
      ∀ cs, files p = some (Text.bytes cs) → PatchHolds (s.openable p) search replace cs

/-! ### Authorizing -/

variable {s : FilesystemService} {c : ExecutionContext} {path : List Char} {files : Files}
  {p : AbsPath}

theorem authorize_eq_ok {capability : String} :
    s.authorize capability c path = .ok p ↔
      c.hasCapability capability = true ∧ c.hasWorkspace = true ∧ s.safePath c path = .ok p := by
  simp only [FilesystemService.authorize, Guard.seq_eq_ok, Guard.ensure_eq_ok]
  simp

theorem safePath_of_authorize {capability : String} (h : s.authorize capability c path = .ok p) :
    s.safePath c path = .ok p := (authorize_eq_ok.1 h).2.2

/-! ### Edits that end early, and edits that write -/

theorem sound_of_unchanged {e : Edit} {r : Raised} (h : e.run s c path files = (.error r, files)) :
    e.Sound s c path files where
  failed _ _ := by rw [h]
  frame _ _ := by rw [h]
  done b hb := by
    rw [h] at hb
    exact nomatch hb

/-- An edit that fails after it has emptied the file. -/
theorem sound_of_emptied {e : Edit} {r : Raised}
    (h : e.run s c path files = (.error r, Function.update files p (some []))) :
    e.Sound s c path files ↔ files p = some [] := by
  constructor
  · intro hsound
    have hsame : Function.update files p (some []) = files := by
      simpa [h] using hsound.failed r (by rw [h])
    have hat := congrFun hsame p
    rw [Function.update_self] at hat
    exact hat.symm
  · intro hempty
    have hsame : Function.update files p (some []) = files := by
      rw [← hempty, Function.update_eq_self]
    rw [hsame] at h
    exact sound_of_unchanged h

/-- An edit that writes. -/
theorem sound_of_written {e : Edit} {b : List UInt8} (hp : s.safePath c path = .ok p)
    (h : e.run s c path files = (.ok true, Function.update files p (some b))) :
    e.Sound s c path files ↔ e.Done files (Function.update files p (some b)) p := by
  constructor
  · intro hsound
    obtain ⟨p', hp', hdone⟩ := hsound.done true (by rw [h])
    rw [hp, Except.ok.injEq] at hp'
    subst hp'
    rwa [h] at hdone
  · intro hdone
    refine ⟨fun r hr => ?_, fun p' hp' => ?_, fun _ _ => ⟨p, hp, ?_⟩⟩
    · rw [h] at hr
      exact nomatch hr
    · rw [h]
      refine Function.update_of_ne ?_ _ _
      rintro rfl
      exact hp' hp
    · rw [h]
      exact hdone

/-! ### Writing -/

/-- What opening, emptying and writing a file come to. -/
theorem sound_writeFile {e : Edit} {content : PyStr} (hp : s.safePath c path = .ok p)
    (h : e.run s c path files = s.writeFile p content files) :
    e.Sound s c path files ↔
      (s.openable p = true →
        (∃ cs, content = PyStr.ofChars cs ∧
            e.Done files (Function.update files p (some (Text.bytes cs))) p) ∨
          PyStr.encode? content = none ∧ files p = some []) := by
  unfold FilesystemService.writeFile at h
  cases hopen : s.openable p with
  | false =>
    rw [hopen, if_pos rfl] at h
    exact iff_of_true (sound_of_unchanged h) fun h => nomatch h
  | true =>
    rw [hopen, if_neg (by simp)] at h
    simp only [true_implies]
    cases hencode : PyStr.encode? content with
    | none =>
      rw [hencode] at h
      rw [sound_of_emptied h]
      refine ⟨fun hempty => .inr ⟨rfl, hempty⟩, ?_⟩
      rintro (⟨cs, rfl, -⟩ | ⟨-, hempty⟩)
      · simp at hencode
      · exact hempty
    | some b =>
      rw [hencode] at h
      rw [sound_of_written hp h]
      obtain ⟨cs, hcs, rfl⟩ := Option.map_eq_some_iff.1 hencode
      rw [PyStr.chars?_eq_some_iff] at hcs
      constructor
      · exact fun hdone => .inl ⟨cs, hcs, hdone⟩
      · rintro (⟨cs', hcs', hdone⟩ | ⟨hnone, -⟩)
        · rw [hcs] at hcs'
          exact PyStr.ofChars_injective hcs' ▸ hdone
        · exact nomatch hnone

/-- A written text is what a reader finds exactly when it has no carriage return. -/
theorem done_write_iff {cs : List Char} :
    (Edit.write (PyStr.ofChars cs)).Done files (Function.update files p (some (Text.bytes cs))) p ↔
      '\r' ∉ cs := by
  have hread : FilesystemService.readFile (Function.update files p (some (Text.bytes cs))) p =
      .ok (Text.universalNewlines cs) := by
    simp [FilesystemService.readFile]
  unfold Edit.Done
  rw [hread, ← Text.universalNewlines_eq_self_iff]
  constructor
  · rintro ⟨cs', hcs', hsame⟩
    rw [Except.ok.injEq] at hcs'
    rw [hcs', PyStr.ofChars_injective hsame]
  · exact fun hsame => ⟨_, rfl, by rw [hsame]⟩

theorem sound_write_iff {content : PyStr} :
    (Edit.write content).Sound s c path files ↔ (Edit.write content).Holds s c path files := by
  have hrun : (Edit.write content).run s c path files = s.write c path content files := rfl
  unfold Edit.Holds
  unfold FilesystemService.write at hrun
  cases hauth : s.authorize "FILE_WRITE" c path with
  | error r =>
    rw [hauth] at hrun
    exact iff_of_true (sound_of_unchanged hrun) fun p hp => nomatch hp
  | ok p =>
    rw [hauth] at hrun
    rw [sound_writeFile (safePath_of_authorize hauth) hrun]
    simp only [Except.ok.injEq, forall_eq']
    refine imp_congr_right fun _ => or_congr_left ?_
    constructor
    · rintro ⟨cs, rfl, hdone⟩
      exact ⟨cs, rfl, done_write_iff.1 hdone⟩
    · rintro ⟨cs, rfl, hcr⟩
      exact ⟨cs, rfl, done_write_iff.2 hcr⟩

/-! ### Patching -/

/-- What a reader who may read finds in a text file. -/
theorem read_eq_ok_iff {content : List Char} :
    s.read c path files = .ok content ↔
      ∃ p, s.authorize "FILE_READ" c path = .ok p ∧
        ∃ cs, files p = some (Text.bytes cs) ∧ content = Text.universalNewlines cs := by
  have hfile (p : AbsPath) : FilesystemService.readFile files p = .ok content ↔
      ∃ cs, files p = some (Text.bytes cs) ∧ content = Text.universalNewlines cs := by
    unfold FilesystemService.readFile
    cases hp : files p with
    | none => simp
    | some b =>
      cases hb : Text.ofBytes b with
      | none =>
        refine iff_of_false (by simp [hb]) ?_
        rintro ⟨cs, hcs, -⟩
        rw [Option.some.injEq] at hcs
        rw [hcs, Text.ofBytes_bytes] at hb
        exact nomatch hb
      | some cs =>
        obtain rfl : b = Text.bytes cs := Text.eq_bytes_of_ofBytes hb
        simp only [hb, Except.ok.injEq, Option.some.injEq]
        constructor
        · rintro rfl
          exact ⟨cs, rfl, rfl⟩
        · rintro ⟨cs', hcs', rfl⟩
          rw [Text.bytes_injective hcs']
  simp only [FilesystemService.read, Guard.seq_eq_ok, hfile]

/-- Whoever may write and read is authorized for both alike. -/
theorem authorize_read_iff (hwrite : c.hasCapability "FILE_WRITE" = true) :
    s.authorize "FILE_READ" c path = .ok p ↔
      s.authorize "FILE_WRITE" c path = .ok p ∧ c.hasCapability "FILE_READ" = true := by
  rw [authorize_eq_ok, authorize_eq_ok]
  tauto

/-- A patch that was read for a text. -/
theorem sound_patch_of_read {search replace : PyStr} {cs : List Char}
    (hwrite : s.authorize "FILE_WRITE" c path = .ok p)
    (hread : s.read c path files = .ok (Text.universalNewlines cs))
    (hfile : files p = some (Text.bytes cs)) :
    (Edit.patch search replace).Sound s c path files ↔
      PatchHolds (s.openable p) search replace cs := by
  have hcap := (authorize_eq_ok.1 hwrite).1
  have hsafe := safePath_of_authorize hwrite
  have hrun : (Edit.patch search replace).run s c path files =
      s.patch c path search replace files := rfl
  rw [FilesystemService.patch, if_neg (by simp [hcap]), hread] at hrun
  dsimp only at hrun
  unfold PatchHolds
  dsimp only
  by_cases hsame : Text.replaceAll search replace (PyStr.ofChars (Text.universalNewlines cs)) =
      PyStr.ofChars (Text.universalNewlines cs)
  · -- nothing is found in what the reader sees
    rw [if_pos hsame] at hrun ⊢
    constructor
    · intro hsound
      obtain ⟨p', hp', cs', hcs', hafter⟩ := hsound.done false (by rw [hrun])
      rw [hsafe, Except.ok.injEq] at hp'
      subst hp'
      rw [hfile, Option.some.injEq] at hcs'
      obtain rfl := Text.bytes_injective hcs'
      rw [hrun] at hafter
      exact PyStr.encode?_eq_some_iff.1 (hafter.symm.trans hfile)
    · intro hraw
      refine ⟨fun r hr => ?_, fun p' _ => by rw [hrun], fun _ _ => ⟨p, hsafe, cs, hfile, ?_⟩⟩
      · rw [hrun] at hr
        exact nomatch hr
      · rw [hrun, hraw, PyStr.encode?_ofChars]
        exact hfile
  · rw [if_neg hsame] at hrun ⊢
    rw [FilesystemService.write, hwrite] at hrun
    rw [sound_writeFile hsafe hrun]
    refine imp_congr_right fun _ => or_congr ?_ (and_congr_right fun _ => ?_)
    · constructor
      · rintro ⟨t, ht, cs', hcs', hafter⟩
        rw [hfile, Option.some.injEq] at hcs'
        obtain rfl := Text.bytes_injective hcs'
        rw [Function.update_self] at hafter
        rw [ht, PyStr.encode?_eq_some_iff.1 hafter.symm]
        simp
      · rintro ⟨hencodes, hraw⟩
        obtain ⟨b, hb⟩ := Option.isSome_iff_exists.1 hencodes
        obtain ⟨t, ht, -⟩ := Option.map_eq_some_iff.1 hb
        rw [PyStr.chars?_eq_some_iff] at ht
        refine ⟨t, ht, cs, hfile, ?_⟩
        rw [Function.update_self, ← hraw, ht, PyStr.encode?_ofChars]
    · rw [hfile, Option.some.injEq]
      constructor
      · exact fun h => Text.bytes_injective (h.trans Text.bytes_nil.symm)
      · rintro rfl
        exact Text.bytes_nil

theorem sound_patch_iff {search replace : PyStr} :
    (Edit.patch search replace).Sound s c path files ↔
      (Edit.patch search replace).Holds s c path files := by
  have hrun : (Edit.patch search replace).run s c path files =
      s.patch c path search replace files := rfl
  unfold FilesystemService.patch at hrun
  cases hcap : c.hasCapability "FILE_WRITE" with
  | false =>
    rw [if_pos hcap] at hrun
    refine iff_of_true (sound_of_unchanged hrun) fun p hp => ?_
    rw [(authorize_eq_ok.1 hp).1] at hcap
    exact nomatch hcap
  | true =>
    rw [if_neg (by simp [hcap])] at hrun
    cases hread : s.read c path files with
    | error r =>
      rw [hread] at hrun
      refine iff_of_true (sound_of_unchanged hrun) fun p hp hcanread cs hfile => ?_
      have hok := read_eq_ok_iff.2 ⟨p, (authorize_read_iff hcap).2 ⟨hp, hcanread⟩, cs, hfile, rfl⟩
      rw [hread] at hok
      exact nomatch hok
    | ok content =>
      obtain ⟨p, hp, cs, hfile, rfl⟩ := read_eq_ok_iff.1 hread
      obtain ⟨hwrite, hcanread⟩ := (authorize_read_iff hcap).1 hp
      rw [sound_patch_of_read hwrite hread hfile]
      constructor
      · intro h p' hp' _ cs' hcs'
        rw [hwrite, Except.ok.injEq] at hp'
        subst hp'
        rw [hfile, Option.some.injEq] at hcs'
        exact Text.bytes_injective hcs' ▸ h
      · exact fun h => h p hwrite hcanread cs hfile

/-- **File edits are local and all-or-nothing** exactly under that condition. -/
theorem edit_iff (s : FilesystemService) (c : ExecutionContext) (path : List Char) (files : Files)
    (e : Edit) : e.Sound s c path files ↔ e.Holds s c path files := by
  cases e with
  | write content => exact sound_write_iff
  | patch search replace => exact sound_patch_iff

/-- In a file without carriage returns a patch is sound if its result can be encoded. -/
theorem patchHolds_of_notMem {openable : Bool} {search replace : PyStr} {cs : List Char}
    (hcr : '\r' ∉ cs)
    (hencodes : (PyStr.encode? (Text.replaceAll search replace (PyStr.ofChars cs))).isSome = true) :
    PatchHolds openable search replace cs := by
  unfold PatchHolds
  rw [Text.universalNewlines_eq_self hcr]
  dsimp only
  split_ifs with hsame
  · exact hsame
  · exact fun _ => .inl ⟨hencodes, rfl⟩

/-! ### A file with Windows line endings, and a surrogate -/

/-- A service with one workspace, and no links. -/
def sampleService : FilesystemService where
  resolve t := some (AbsPath.lexical [] t)
  status _ _ := .ok (some "/srv/ws".toList)
  openable _ := true

/-- A context that may read and write. -/
def editor : ExecutionContext where
  tenantId := "tenant"
  accountId := "account"
  projectId := "project"
  annyInstanceId := "anny"
  runtimeId := "runtime"
  sessionId := "session"
  actorId := "actor"
  operationId := "operation"
  executionId := "execution"
  generation := 1
  issuedAt := ⟨0, none⟩
  expiresAt := ⟨1, none⟩
  workspaceId := some "ws-1"
  capabilities := ["FILE_READ", "FILE_WRITE"]

/-- The path of a file of the workspace. -/
def notes : AbsPath := AbsPath.lexical [] "/srv/ws/notes".toList

theorem authorize_editor :
    sampleService.authorize "FILE_WRITE" editor "notes".toList = .ok notes := by
  decide

/-- The content of a file with Windows line endings. -/
def windowsText : List Char := ['a', '\r', '\n', 'b']

/-- The only file. -/
def onlyNotes : Files := Function.update (fun _ => none) notes (some (Text.bytes windowsText))

/-- **Two edits that are not sound**: a patch of the first letter changes the line ending after it,
and a text that cannot be encoded empties the file. -/
theorem not_sound_notes :
    ¬ (Edit.patch [.char 'a'] [.char 'c']).Sound sampleService editor "notes".toList onlyNotes ∧
      ¬ (Edit.write [.surrogate 0]).Sound sampleService editor "notes".toList onlyNotes := by
  have hfile : onlyNotes notes = some (Text.bytes windowsText) := Function.update_self _ _ _
  constructor
  · rw [sound_patch_iff]
    intro h
    have hholds := h notes authorize_editor (by decide) windowsText hfile
    unfold PatchHolds at hholds
    dsimp only at hholds
    rw [if_neg (by decide)] at hholds
    obtain ⟨-, hsame⟩ | ⟨-, hempty⟩ := hholds rfl
    · exact absurd hsame (by decide)
    · exact absurd hempty (by decide)
  · rw [sound_write_iff]
    intro h
    obtain ⟨cs, hcs, -⟩ | ⟨-, hempty⟩ := h notes authorize_editor rfl
    · have hchars := PyStr.chars?_ofChars cs
      rw [← hcs] at hchars
      exact nomatch hchars
    · rw [hfile, Option.some.injEq, ← Text.bytes_nil] at hempty
      exact absurd (Text.bytes_injective hempty) (by decide)

end Filesystem

end AnnyRuntime
