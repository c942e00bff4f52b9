import AnnyRuntime.Json.Torn
import AnnyRuntime.Lib.Transition
import AnnyRuntime.Telemetry.Aggregator

/-!
# The account registry

The registry keeps the accounts in memory and in one JSON file each.  A new account gets an id from
eight random hexadecimal digits, and the reference of its credential is made from the id.

What is loaded from the files may hold any values, since nothing checks their types, and a file
whose write failed is cut off somewhere.

* `minted_of_reachable` : in every run, with any failing writes, deletions and restarts, the id and
  the reference of every account are those that it was created with.
-/

namespace AnnyRuntime

namespace Accounts

open Telemetry (DictKey dictKey)

/-! ### Accounts -/

/-- `AccountStatus`. -/
inductive AccountStatus where
  | active
  | suspended
  | disconnected
  deriving DecidableEq

namespace AccountStatus

/-- Its value. -/
def value : AccountStatus → String
  | active => "ACTIVE"
  | suspended => "SUSPENDED"
  | disconnected => "DISCONNECTED"

/-- `AccountStatus(v)`, or a `ValueError`. -/
def ofValue (v : Json) : Option AccountStatus :=
  [active, suspended, disconnected].find? fun s => v = .str s.value

theorem ofValue_value (s : AccountStatus) : ofValue (.str s.value) = some s := by
  cases s <;> decide

end AccountStatus

/-- `Account`.  Nothing checks the types of what is loaded. -/
structure Account where
  (accountId githubPrincipal accountType credentialRef : Json)
  status : AccountStatus
  createdAt : DateTime
  deriving DecidableEq

/-- What the registry takes from elsewhere. -/
structure Library where
  arith : FloatArith
  /-- `str.lower`. -/
  lower : String → String
  /-- `datetime.isoformat`. -/
  isoformat : DateTime → String
  /-- `datetime.fromisoformat`, or a `ValueError`. -/
  fromisoformat : String → Option DateTime

/-- The first eight characters of `uuid.uuid4().hex`. -/
structure ShortHex where
  text : String
  length_eq : text.toList.length = 8
  digits : (text.toList.all fun c => "0123456789abcdef".toList.contains c) = true

/-- The id of a new account. -/
def newId (hex : ShortHex) : String := "acct-" ++ hex.text

/-- A new account. -/
def newAccount (githubPrincipal accountType : String) (hex : ShortHex) (now : DateTime) :
    Account where
  accountId := .str (newId hex)
  githubPrincipal := .str githubPrincipal
  accountType := .str accountType
  credentialRef := .str (newId hex ++ "-github-token")
  status := .active
  createdAt := now

/-! ### Files -/

section Files

variable (L : Library)

/-- What is written of an account. -/
def Account.data (a : Account) : List (String × Json) :=
  [("account_id", a.accountId), ("github_principal", a.githubPrincipal),
    ("account_type", a.accountType), ("credential_ref", a.credentialRef),
    ("status", .str a.status.value), ("created_at", .str (L.isoformat a.createdAt))]

/-- The text of its file. -/
def Account.text (a : Account) : List Char := Json.dumpsIndent 0 (.obj (a.data L))

/-- The account that some members are, unless one is missing or has no such value. -/
def ofData (data : List (String × Json)) : Option Account := do
  let accountId ← Json.lookup "account_id" data
  let githubPrincipal ← Json.lookup "github_principal" data
  let accountType ← Json.lookup "account_type" data
  let credentialRef ← Json.lookup "credential_ref" data
  let status ← (Json.lookup "status" data).bind AccountStatus.ofValue
  let createdAt ← match Json.lookup "created_at" data with
    | some (.str s) => L.fromisoformat s
    | _ => none
  return ⟨accountId, githubPrincipal, accountType, credentialRef, status, createdAt⟩

/-- The account of a file, unless reading it raises. -/
def readAccount (file : ByteArray) : Option Account :=
  match (Text.decode file).bind Json.loads with
  | some (.obj data) => ofData L data
  | _ => none

end Files

/-- How a write of a file goes. -/
inductive FileWrite where
  | done
  /-- The file is not opened. -/
  | refused
  /-- It fails after so many characters. -/
  | cut (n : ℕ)
  deriving DecidableEq

/-- What a file holds after a write, when it was opened. -/
def FileWrite.content (text : List Char) : FileWrite → Option ByteArray
  | .done => some (Text.encode text)
  | .refused => none
  | .cut n => some (Text.encode (text.take n))

/-- The name of the file of an account. -/
def fileName (accountId : String) : String := accountId ++ ".json"

/-! ### The registry -/

/-- `AccountRegistry`: its memory, and the files in its directory. -/
structure AccountRegistry where
  accounts : Dict DictKey Account
  files : Dict String ByteArray

/-- What the registry raises. -/
inductive Raised where
  | valueError (message : String)
  | attributeError
  | osError
  deriving DecidableEq

namespace AccountRegistry

/-- `MAX_ACCOUNTS`. -/
def maxAccounts : ℕ := 5

/-- A new registry for an empty directory. -/
def new : AccountRegistry := ⟨.empty, .empty⟩

variable (L : Library) (r : AccountRegistry)

/-- Enter an account that was read, unless its id cannot be a key. -/
def enter (d : Dict DictKey Account) (a : Account) : Dict DictKey Account :=
  match dictKey L.arith a.accountId with
  | some k => d.set k a
  | none => d

/-- `load`, when these files are listed and can be read, in this order. -/
def load (names : List String) : AccountRegistry :=
  let read := (names.filter fun n => ".json".toList.isSuffixOf n.toList).filterMap fun n =>
    (r.files.get? n).bind (readAccount L)
  { r with accounts := read.foldl (enter L) .empty }

/-- `save`, for an account with this id: whether it raises nothing. -/
def save (id : String) (a : Account) (write : FileWrite) : Bool × AccountRegistry :=
  (write = .done,
    match write.content (a.text L) with
    | some b => { r with files := r.files.set (fileName id) b }
    | none => r)

/-- Look for a principal among some accounts. -/
def findIn (githubPrincipal : String) : List Account → Except Raised (Option Account)
  | [] => .ok none
  | a :: as =>
    match a.githubPrincipal with
    | .str p =>
      if L.lower p = L.lower githubPrincipal then .ok (some a) else findIn githubPrincipal as
    | _ => .error .attributeError

/-- `find_by_principal`. -/
def findByPrincipal (githubPrincipal : String) : Except Raised (Option Account) :=
  findIn L githubPrincipal r.accounts.values

/-- `create_account`. -/
def createAccount (githubPrincipal accountType : String) (hex : ShortHex) (now : DateTime)
    (write : FileWrite) : Except Raised Account × AccountRegistry :=
  if maxAccounts ≤ r.accounts.entries.length then
    (.error (.valueError ("Maximum of " ++ toString maxAccounts ++ " accounts reached")), r)
  else
    match r.findByPrincipal L githubPrincipal with
    | .error e => (.error e, r)
    | .ok (some existing) => (.ok existing, r)
    | .ok none =>
      let account := newAccount githubPrincipal accountType hex now
      let r := { r with accounts := r.accounts.set (.str (newId hex)) account }
      let saved := r.save L (newId hex) account write
      (if saved.1 then .ok account else .error .osError, saved.2)

/-- `delete_account`, when the file can be removed or not. -/
def deleteAccount (accountId : String) (unlinked : Bool) : Except Raised Bool × AccountRegistry :=
  if r.accounts.contains (.str accountId) then
    let r := { r with accounts := r.accounts.erase (.str accountId) }
    if r.files.contains (fileName accountId) then
      if unlinked then (.ok true, { r with files := r.files.erase (fileName accountId) })
      else (.error .osError, r)
    else (.ok true, r)
  else (.ok false, r)

end AccountRegistry

/-- A call of the registry.  A restart loads, too. -/
inductive Call where
  | create (githubPrincipal accountType : String) (hex : ShortHex) (now : DateTime)
      (write : FileWrite)
  | delete (accountId : String) (unlinked : Bool)
  | load (names : List String)

/-- The registry after a call. -/
def AccountRegistry.after (L : Library) (r : AccountRegistry) : Call → AccountRegistry
  | .create githubPrincipal accountType hex now write =>
    (r.createAccount L githubPrincipal accountType hex now write).2
  | .delete accountId unlinked => (r.deleteAccount accountId unlinked).2
  | .load names => r.load L names

/-- The runs of a registry that starts with an empty directory. -/
def runs (L : Library) : System AccountRegistry Call :=
  .ofFn (· = .new) fun r call => some (r.after L call)

/-! ### Reading back -/

/-- The id and the reference of an account are those that one was created with. -/
def Account.IsMinted (a : Account) : Prop :=
  ∃ hex, a.accountId = .str (newId hex) ∧ a.credentialRef = .str (newId hex ++ "-github-token")

/-- So are those of the accounts in memory, and of those that could be loaded. -/
structure Minted (L : Library) (r : AccountRegistry) : Prop where
  accounts : ∀ k a, r.accounts.get? k = some a → a.IsMinted
  files : ∀ name b, r.files.get? name = some b → ∀ a, readAccount L b = some a → a.IsMinted

variable {L : Library} {r : AccountRegistry} {a : Account}

theorem ofData_data (a : Account) : ofData L (a.data L) =
    (L.fromisoformat (L.isoformat a.createdAt)).map fun t => { a with createdAt := t } := by
  have hlookup : Json.lookup "account_id" (a.data L) = some a.accountId ∧
      Json.lookup "github_principal" (a.data L) = some a.githubPrincipal ∧
      Json.lookup "account_type" (a.data L) = some a.accountType ∧
      Json.lookup "credential_ref" (a.data L) = some a.credentialRef ∧
      Json.lookup "status" (a.data L) = some (.str a.status.value) ∧
      Json.lookup "created_at" (a.data L) = some (.str (L.isoformat a.createdAt)) :=
    ⟨rfl, rfl, rfl, rfl, rfl, rfl⟩
  obtain ⟨hid, hprincipal, htype, href, hstatus, htime⟩ := hlookup
  simp only [ofData, hid, hprincipal, htype, href, hstatus, htime, Option.bind_eq_bind,
    Option.bind_some, AccountStatus.ofValue_value]
  cases L.fromisoformat (L.isoformat a.createdAt) <;> rfl

/-- **Reading back.**  What can be loaded of a file, wherever its write was cut off, is the account.
-/
theorem of_readAccount {n : ℕ} {a' : Account}
    (h : readAccount L (Text.encode ((a.text L).take n)) = some a') :
    a'.accountId = a.accountId ∧ a'.credentialRef = a.credentialRef := by
  rw [readAccount, Text.decode_encode, Option.bind_some] at h
  by_cases hrest : (a.text L).drop n = []
  · have hwhole : (a.text L).take n = a.text L := by
      have happend := List.take_append_drop n (a.text L)
      rwa [hrest, List.append_nil] at happend
    rw [hwhole, Account.text, Json.loads_dumpsIndent] at h
    simp only [ofData_data] at h
    obtain ⟨t, -, rfl⟩ := Option.map_eq_some_iff.1 h
    exact ⟨rfl, rfl⟩
  · rw [Json.loads_torn_indent hrest (List.take_append_drop n _)] at h
    cases h

theorem isMinted_newAccount (githubPrincipal accountType : String) (hex : ShortHex)
    (now : DateTime) : (newAccount githubPrincipal accountType hex now).IsMinted := ⟨hex, rfl, rfl⟩

theorem Account.IsMinted.of_readAccount {n : ℕ} {a' : Account} (ha : a.IsMinted)
    (h : readAccount L (Text.encode ((a.text L).take n)) = some a') : a'.IsMinted := by
  obtain ⟨hid, href⟩ := Accounts.of_readAccount h
  obtain ⟨hex, ha⟩ := ha
  exact ⟨hex, hid.trans ha.1, href.trans ha.2⟩

/-! ### Runs -/

theorem minted_new : Minted L .new where
  accounts k a h := by cases h
  files name b h := by cases h

/-- What is written of a new account can be loaded as it, or not at all. -/
theorem Minted.save (h : Minted L r) (ha : a.IsMinted) (id : String) (write : FileWrite) :
    Minted L (r.save L id a write).2 := by
  have hset {n : ℕ} : Minted L
      { r with files := r.files.set (fileName id) (Text.encode ((a.text L).take n)) } :=
    ⟨h.accounts, Dict.forall_get?_set h.files fun a' hread => ha.of_readAccount hread⟩
  cases write with
  | refused => exact h
  | cut n => exact hset
  | done =>
    have hwhole := hset (n := (a.text L).length)
    rwa [List.take_length] at hwhole

theorem Minted.enter {d : Dict DictKey Account}
    (hd : ∀ k a, d.get? k = some a → a.IsMinted) {as : List Account} (has : ∀ a ∈ as, a.IsMinted) :
    ∀ k a, (as.foldl (AccountRegistry.enter L) d).get? k = some a → a.IsMinted := by
  induction as generalizing d with
  | nil => exact hd
  | cons a as ih =>
    rw [List.forall_mem_cons] at has
    refine ih ?_ has.2
    rw [AccountRegistry.enter]
    split
    · exact Dict.forall_get?_set hd has.1
    · exact hd

theorem Minted.load (h : Minted L r) (names : List String) : Minted L (r.load L names) := by
  refine ⟨Minted.enter (minted_new (L := L)).accounts fun a ha => ?_, h.files⟩
  obtain ⟨name, -, hread⟩ := List.mem_filterMap.1 ha
  obtain ⟨b, hb, hread⟩ := Option.bind_eq_some_iff.1 hread
  exact h.files name b hb a hread

theorem Minted.createAccount (h : Minted L r) (githubPrincipal accountType : String)
    (hex : ShortHex) (now : DateTime) (write : FileWrite) :
    Minted L (r.createAccount L githubPrincipal accountType hex now write).2 := by
  have hnew := isMinted_newAccount githubPrincipal accountType hex now
  rw [AccountRegistry.createAccount]
  split_ifs
  · exact h
  · split
    · exact h
    · exact h
    · exact Minted.save (r := { r with accounts := r.accounts.set _ _ })
        ⟨Dict.forall_get?_set h.accounts hnew, h.files⟩ hnew _ write

theorem Minted.deleteAccount (h : Minted L r) (accountId : String) (unlinked : Bool) :
    Minted L (r.deleteAccount accountId unlinked).2 := by
  have herase : Minted L { r with accounts := r.accounts.erase (.str accountId) } :=
    ⟨fun k a hget => h.accounts k a (Dict.of_get?_erase hget).2, h.files⟩
  simp only [AccountRegistry.deleteAccount]
  split_ifs
  · exact ⟨herase.accounts, fun name b hb => h.files name b (Dict.of_get?_erase hb).2⟩
  · exact herase
  · exact herase
  · exact h

/-- **The accounts of a run.** -/
theorem minted_of_reachable (h : (runs L).Reachable r) : Minted L r := by
  refine System.Invariant.holds ⟨?_, ?_⟩ h
  · rintro _ rfl
    exact minted_new
  · intro r call r' hr hstep
    obtain rfl := Option.some.inj hstep
    cases call with
    | create githubPrincipal accountType hex now write =>
      exact hr.createAccount githubPrincipal accountType hex now write
    | delete accountId unlinked => exact hr.deleteAccount accountId unlinked
    | load names => exact hr.load names

end Accounts

end AnnyRuntime
