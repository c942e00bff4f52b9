import AnnyRuntime.Accounts.Registry

/-!
# What the account registry keeps

While its files can be read and written, the registry has at most five accounts, no two of them
have one principal up to case, and another registry for its directory holds the same accounts
(`Sound`).

A principal that has an account should get this account when it is created again (`Returns`).

* `registry_sound_iff` : **every registry that a run reaches is sound, and it returns the accounts
  that it has exactly when it is not full**: the limit is checked before the account is looked for.
-/

namespace AnnyRuntime

namespace Accounts

open Telemetry (DictKey dictKey)
open AccountRegistry

/-- The files can be read and written: a write ends, a file is removed, all files are listed. -/
def Call.Works (r : AccountRegistry) : Call → Prop
  | .create _ _ _ _ write => write = .done
  | .delete _ unlinked => unlinked = true
  | .load names => names.Perm r.files.keys

/-- The account has this principal, up to case. -/
def Account.HasPrincipal (L : Library) (githubPrincipal : String) (a : Account) : Prop :=
  ∃ p, a.githubPrincipal = .str p ∧ L.lower p = L.lower githubPrincipal

/-- The registry keeps what it promises. -/
structure Sound (L : Library) (r : AccountRegistry) : Prop where
  atMost : r.accounts.entries.length ≤ maxAccounts
  /-- No two accounts have one principal. -/
  distinct : ∀ k a k' a' p, r.accounts.get? k = some a → r.accounts.get? k' = some a' →
    a.HasPrincipal L p → a'.HasPrincipal L p → k = k'
  /-- A new registry for the directory, in whatever order it lists the files. -/
  mirrored : ∀ names, names.Perm r.files.keys →
    (load L ⟨.empty, r.files⟩ names).accounts.entries.Perm r.accounts.entries

/-- Creating an account for the principal returns one that it has, and changes nothing. -/
def Returns (L : Library) (r : AccountRegistry) (githubPrincipal : String) : Prop :=
  ∀ accountType hex now write, ∃ a ∈ r.accounts.values, a.HasPrincipal L githubPrincipal ∧
    r.createAccount L githubPrincipal accountType hex now write = (.ok a, r)

/-- What every operation keeps: the files are those of the accounts in memory. -/
structure Kept (L : Library) (r : AccountRegistry) : Prop where
  own : ∀ k a, r.accounts.get? k = some a →
    ∃ id p, k = .str id ∧ a.accountId = .str id ∧ a.githubPrincipal = .str p
  atMost : r.accounts.entries.length ≤ maxAccounts
  distinct : ∀ k a k' a' p, r.accounts.get? k = some a → r.accounts.get? k' = some a' →
    a.HasPrincipal L p → a'.HasPrincipal L p → k = k'
  written : ∀ id a, r.accounts.get? (.str id) = some a →
    r.files.get? (fileName id) = some (Text.encode (a.text L))
  named : ∀ name, r.files.get? name ≠ none →
    ∃ id, name = fileName id ∧ r.accounts.get? (.str id) ≠ none

variable {L : Library} {r : AccountRegistry} {a : Account} {githubPrincipal : String}

/-! ### Files -/

theorem fileName_injective : Function.Injective fileName := by
  intro id id' h
  have hlist := congrArg String.toList h
  rw [fileName, fileName, String.toList_append, String.toList_append,
    List.append_cancel_right_eq] at hlist
  exact String.toList_injective hlist

/-- The names of the files end as the registry looks for them. -/
theorem isSuffixOf_fileName (id : String) :
    ".json".toList.isSuffixOf (fileName id).toList = true := by
  rw [fileName, String.toList_append, List.isSuffixOf_iff_suffix]
  exact List.suffix_append _ _

/-- **A file that was written** is read as its account. -/
theorem readAccount_text (hL : ∀ t, L.fromisoformat (L.isoformat t) = some t) (a : Account) :
    readAccount L (Text.encode (a.text L)) = some a := by
  rw [readAccount, Text.decode_encode, Option.bind_some, Account.text, Json.loads_dumpsIndent]
  simp only [ofData_data, hL, Option.map_some]

/-- The accounts that are read. -/
def readFrom (L : Library) (r : AccountRegistry) (names : List String) : List Account :=
  (names.filter fun n => ".json".toList.isSuffixOf n.toList).filterMap fun n =>
    (r.files.get? n).bind (readAccount L)

/-- The accounts that are read are those in memory. -/
theorem Kept.mem_readFrom (h : Kept L r) (hL : ∀ t, L.fromisoformat (L.isoformat t) = some t)
    {names : List String} (hnames : names.Perm r.files.keys) :
    a ∈ readFrom L r names ↔ ∃ k, r.accounts.get? k = some a := by
  rw [readFrom, List.mem_filterMap]
  constructor
  · rintro ⟨name, -, hread⟩
    obtain ⟨b, hb, hread⟩ := Option.bind_eq_some_iff.1 hread
    obtain ⟨id, rfl, hid⟩ := h.named name (hb ▸ Option.some_ne_none b)
    obtain ⟨a', ha'⟩ := Option.ne_none_iff_exists'.1 hid
    obtain rfl : Text.encode (a'.text L) = b :=
      Option.some.inj ((h.written id a' ha').symm.trans hb)
    rw [readAccount_text hL] at hread
    exact ⟨.str id, ha'.trans hread⟩
  · rintro ⟨k, hk⟩
    obtain ⟨id, p, rfl, -, -⟩ := h.own k a hk
    have hfile := h.written id a hk
    refine ⟨fileName id, List.mem_filter.2 ⟨hnames.mem_iff.2 ?_, isSuffixOf_fileName id⟩, ?_⟩
    · by_contra hno
      rw [← Dict.get?_eq_none_iff, hfile] at hno
      cases hno
    · rw [hfile, Option.bind_some, readAccount_text hL]

/-- Entering accounts: what is found was entered, and is under its id. -/
theorem of_get?_foldl_enter {as : List Account} {d : Dict DictKey Account} {k : DictKey}
    (h : (as.foldl (enter L) d).get? k = some a) :
    (a ∈ as ∧ dictKey L.arith a.accountId = some k) ∨ d.get? k = some a := by
  induction as generalizing d with
  | nil => exact .inr h
  | cons b as ih =>
    rcases ih h with ⟨hmem, hk⟩ | hget
    · exact .inl ⟨List.mem_cons_of_mem b hmem, hk⟩
    · rw [enter] at hget
      split at hget
      case h_1 k' hk' =>
        rcases Dict.of_get?_set hget with ⟨rfl, rfl⟩ | ⟨-, hget⟩
        · exact .inl ⟨List.mem_cons_self, hk'⟩
        · exact .inr hget
      case h_2 => exact .inr hget

/-- And the id of every one is found. -/
theorem get?_foldl_enter_ne_none {as : List Account} {d : Dict DictKey Account} {k : DictKey}
    (h : (∃ a ∈ as, dictKey L.arith a.accountId = some k) ∨ d.get? k ≠ none) :
    (as.foldl (enter L) d).get? k ≠ none := by
  induction as generalizing d with
  | nil => exact h.resolve_left (by simp)
  | cons b as ih =>
    refine ih ?_
    rcases h with ⟨a, hmem, hk⟩ | hget
    · rcases List.mem_cons.1 hmem with rfl | hmem
      · right
        rw [enter, hk, Dict.get?_set_self]
        exact Option.some_ne_none a
      · exact .inl ⟨a, hmem, hk⟩
    · right
      rw [enter]
      split
      · exact Dict.get?_set_ne_none hget _
      · exact hget

/-- **Loading** finds the accounts in memory. -/
theorem Kept.get?_load (h : Kept L r) (hL : ∀ t, L.fromisoformat (L.isoformat t) = some t)
    {names : List String} (hnames : names.Perm r.files.keys) (k : DictKey) :
    (r.load L names).accounts.get? k = r.accounts.get? k := by
  change ((readFrom L r names).foldl (enter L) .empty).get? k = _
  have hkey {k' : DictKey} {a : Account} (ha : r.accounts.get? k' = some a) :
      dictKey L.arith a.accountId = some k' := by
    obtain ⟨id, p, rfl, hid, -⟩ := h.own k' a ha
    rw [hid]
    rfl
  cases hload : ((readFrom L r names).foldl (enter L) .empty).get? k with
  | some a =>
    rcases of_get?_foldl_enter hload with ⟨hmem, hk⟩ | hempty
    · obtain ⟨k', hk'⟩ := (h.mem_readFrom hL hnames).1 hmem
      obtain rfl : k' = k := Option.some.inj ((hkey hk').symm.trans hk)
      exact hk'.symm
    · cases hempty
  | none =>
    cases hmem : r.accounts.get? k with
    | none => rfl
    | some a =>
      refine absurd hload (get?_foldl_enter_ne_none (.inl ⟨a, ?_, hkey hmem⟩))
      exact (h.mem_readFrom hL hnames).2 ⟨k, hmem⟩

theorem Kept.sound (h : Kept L r) (hL : ∀ t, L.fromisoformat (L.isoformat t) = some t) :
    Sound L r where
  atMost := h.atMost
  distinct := h.distinct
  mirrored _ hnames := Dict.perm_entries_iff.2 (h.get?_load hL hnames)

/-! ### Looking for a principal -/

/-- A search finds an account of the principal, or there is none. -/
theorem findIn_cases {as : List Account} (has : ∀ a ∈ as, ∃ p, a.githubPrincipal = .str p) :
    (findIn L githubPrincipal as = .ok none ∧ ∀ a ∈ as, ¬ a.HasPrincipal L githubPrincipal) ∨
      ∃ a ∈ as, a.HasPrincipal L githubPrincipal ∧ findIn L githubPrincipal as = .ok (some a) := by
  induction as with
  | nil => exact .inl ⟨rfl, by simp⟩
  | cons a as ih =>
    rw [List.forall_mem_cons] at has
    obtain ⟨⟨p, hp⟩, has⟩ := has
    by_cases hlower : L.lower p = L.lower githubPrincipal
    · exact .inr ⟨a, List.mem_cons_self, ⟨p, hp, hlower⟩, by simp [findIn, hp, hlower]⟩
    · have hno : ¬ a.HasPrincipal L githubPrincipal := by
        rintro ⟨q, hq, hsame⟩
        obtain rfl := Json.str.inj (hp.symm.trans hq)
        exact hlower hsame
      have hstep : findIn L githubPrincipal (a :: as) = findIn L githubPrincipal as := by
        simp [findIn, hp, hlower]
      rw [hstep]
      rcases ih has with ⟨hnone, hall⟩ | ⟨b, hb, hsame, hsome⟩
      · exact .inl ⟨hnone, List.forall_mem_cons.2 ⟨hno, hall⟩⟩
      · exact .inr ⟨b, List.mem_cons_of_mem a hb, hsame, hsome⟩

theorem Kept.findByPrincipal_cases (h : Kept L r) (githubPrincipal : String) :
    (r.findByPrincipal L githubPrincipal = .ok none ∧
        ∀ a ∈ r.accounts.values, ¬ a.HasPrincipal L githubPrincipal) ∨
      ∃ a ∈ r.accounts.values, a.HasPrincipal L githubPrincipal ∧
        r.findByPrincipal L githubPrincipal = .ok (some a) := by
  refine findIn_cases fun a ha => ?_
  obtain ⟨k, hk⟩ := Dict.exists_get?_of_mem_values ha
  obtain ⟨id, p, -, -, hp⟩ := h.own k a hk
  exact ⟨p, hp⟩

/-! ### Operations -/

theorem kept_new : Kept L .new where
  own k a h := by cases h
  atMost := Nat.zero_le _
  distinct k a k' a' p h := by cases h
  written id a h := by cases h
  named name h := absurd rfl h

/-- A new account, when its principal has none. -/
theorem Kept.add (h : Kept L r) (hlen : r.accounts.entries.length < maxAccounts)
    (hnew : ∀ a ∈ r.accounts.values, ¬ a.HasPrincipal L githubPrincipal) (accountType : String)
    (hex : ShortHex) (now : DateTime) :
    Kept L
      { accounts := r.accounts.set (.str (newId hex))
          (newAccount githubPrincipal accountType hex now)
        files := r.files.set (fileName (newId hex))
          (Text.encode ((newAccount githubPrincipal accountType hex now).text L)) } where
  own := Dict.forall_get?_set h.own ⟨newId hex, githubPrincipal, rfl, rfl, rfl⟩
  atMost := (Dict.length_entries_set_le _ _ _).trans hlen
  distinct k a k' a' p ha ha' hp hp' := by
    -- no other account has a principal of the new one
    have hother {b : Account} {j : DictKey} (hb : r.accounts.get? j = some b)
        (hbp : b.HasPrincipal L p)
        (hp : (newAccount githubPrincipal accountType hex now).HasPrincipal L p) : False := by
      obtain ⟨q, hq, hsame⟩ := hbp
      obtain ⟨q', hq', hsame'⟩ := hp
      obtain rfl := Json.str.inj hq'
      exact hnew b (Dict.mem_values_of_get? hb) ⟨q, hq, hsame.trans hsame'.symm⟩
    rcases Dict.of_get?_set ha with ⟨rfl, rfl⟩ | ⟨-, ha⟩ <;>
      rcases Dict.of_get?_set ha' with ⟨rfl, rfl⟩ | ⟨-, ha'⟩
    · rfl
    · exact (hother ha' hp' hp).elim
    · exact (hother ha hp hp').elim
    · exact h.distinct k a k' a' p ha ha' hp hp'
  written id a ha := by
    rcases Dict.of_get?_set ha with ⟨hid, rfl⟩ | ⟨hne, ha⟩
    · obtain rfl := DictKey.str.inj hid
      exact Dict.get?_set_self _ _
    · have hname : fileName id ≠ fileName (newId hex) := fun heq =>
        hne (congrArg DictKey.str (fileName_injective heq))
      rw [Dict.get?_set_ne hname]
      exact h.written id a ha
  named name hfile := by
    rw [Dict.get?_set] at hfile
    split_ifs at hfile with hname
    · refine ⟨newId hex, hname, ?_⟩
      rw [Dict.get?_set_self]
      exact Option.some_ne_none _
    · obtain ⟨id, rfl, hid⟩ := h.named name hfile
      exact ⟨id, rfl, Dict.get?_set_ne_none hid _⟩

theorem Kept.createAccount (h : Kept L r) (githubPrincipal accountType : String) (hex : ShortHex)
    (now : DateTime) : Kept L (r.createAccount L githubPrincipal accountType hex now .done).2 := by
  rw [AccountRegistry.createAccount]
  split_ifs with hfull
  · exact h
  · rcases h.findByPrincipal_cases githubPrincipal with ⟨hnone, hnew⟩ | ⟨a, -, -, hsome⟩
    · rw [hnone]
      exact h.add (Nat.lt_of_not_le hfull) hnew accountType hex now
    · rw [hsome]
      exact h

theorem Kept.deleteAccount (h : Kept L r) (accountId : String) :
    Kept L (r.deleteAccount accountId true).2 := by
  rw [AccountRegistry.deleteAccount]
  by_cases hmem : r.accounts.contains (.str accountId) = true
  · obtain ⟨a, ha⟩ := Option.isSome_iff_exists.1 hmem
    have hfile : r.files.contains (fileName accountId) = true := by
      rw [Dict.contains, h.written accountId a ha]
      rfl
    rw [if_pos hmem]
    simp only [hfile, if_true]
    exact
      { own := fun k a hk => h.own k a (Dict.of_get?_erase hk).2
        atMost := (Dict.length_entries_erase_le _ _).trans h.atMost
        distinct := fun k a k' a' p hk hk' =>
          h.distinct k a k' a' p (Dict.of_get?_erase hk).2 (Dict.of_get?_erase hk').2
        written := fun id a hid => by
          obtain ⟨hne, hid⟩ := Dict.of_get?_erase hid
          have hname : fileName id ≠ fileName accountId := fun heq =>
            hne (congrArg DictKey.str (fileName_injective heq))
          rw [Dict.get?_erase, if_neg hname]
          exact h.written id a hid
        named := fun name hname => by
          rw [Dict.get?_erase] at hname
          split_ifs at hname with heq
          · exact absurd rfl hname
          · obtain ⟨id, rfl, hid⟩ := h.named name hname
            refine ⟨id, rfl, ?_⟩
            rw [Dict.get?_erase, if_neg]
            · exact hid
            · exact fun hkey => heq (congrArg fileName (DictKey.str.inj hkey)) }
  · rw [if_neg hmem]
    exact h

theorem Kept.load (h : Kept L r) (hL : ∀ t, L.fromisoformat (L.isoformat t) = some t)
    {names : List String} (hnames : names.Perm r.files.keys) : Kept L (r.load L names) := by
  have hget := h.get?_load hL hnames
  exact
    { own := fun k a hk => h.own k a ((hget k).symm.trans hk)
      atMost := (Dict.perm_entries_iff.2 hget).length_eq.trans_le h.atMost
      distinct := fun k a k' a' p hk hk' =>
        h.distinct k a k' a' p ((hget k).symm.trans hk) ((hget k').symm.trans hk')
      written := fun id a hid => h.written id a ((hget _).symm.trans hid)
      named := fun name hname => by
        obtain ⟨id, rfl, hid⟩ := h.named name hname
        exact ⟨id, rfl, by rwa [hget]⟩ }

/-! ### Runs -/

/-- **What runs keep.** -/
theorem kept_of_reachable (hL : ∀ t, L.fromisoformat (L.isoformat t) = some t)
    (h : ((runs L).restrict Call.Works).Reachable r) : Kept L r := by
  refine System.Invariant.holds ⟨?_, ?_⟩ h
  · rintro _ rfl
    exact kept_new
  · rintro r call r' hr ⟨hworks, hstep⟩
    obtain rfl := Option.some.inj hstep
    cases call with
    | create githubPrincipal accountType hex now write =>
      obtain rfl : write = .done := hworks
      exact hr.createAccount githubPrincipal accountType hex now
    | delete accountId unlinked =>
      obtain rfl : unlinked = true := hworks
      exact hr.deleteAccount accountId
    | load names => exact hr.load hL hworks

/-- **When an account is returned** that the principal has. -/
theorem Kept.returns_iff (h : Kept L r)
    (hhas : ∃ a ∈ r.accounts.values, a.HasPrincipal L githubPrincipal) :
    Returns L r githubPrincipal ↔ r.accounts.entries.length < maxAccounts := by
  constructor
  · intro hreturns
    by_contra hfull
    obtain ⟨a, -, -, heq⟩ :=
      hreturns "personal" ⟨"00000000", by decide, by decide⟩ ⟨0, some 0⟩ .done
    rw [AccountRegistry.createAccount, if_pos (Nat.le_of_not_lt hfull)] at heq
    cases (Prod.mk.inj heq).1
  · intro hlen accountType hex now write
    rcases h.findByPrincipal_cases githubPrincipal with ⟨-, hnew⟩ | ⟨a, ha, hp, hsome⟩
    · obtain ⟨a, ha, hp⟩ := hhas
      exact absurd hp (hnew a ha)
    · refine ⟨a, ha, hp, ?_⟩
      rw [AccountRegistry.createAccount, if_neg (Nat.not_le_of_lt hlen), hsome]

/-- **What the registry keeps**, in every run in which the files can be read and written. -/
theorem registry_sound_iff (L : Library) (hL : ∀ t, L.fromisoformat (L.isoformat t) = some t)
    (r : AccountRegistry) (h : ((runs L).restrict Call.Works).Reachable r) :
    Sound L r ∧ ∀ githubPrincipal,
      (∃ a ∈ r.accounts.values, a.HasPrincipal L githubPrincipal) →
        (Returns L r githubPrincipal ↔ r.accounts.entries.length < maxAccounts) :=
  ⟨(kept_of_reachable hL h).sound hL, fun _ => (kept_of_reachable hL h).returns_iff⟩

/-! ### Two registries -/

/-- A library with the texts of one time, and other texts for the other times. -/
def someLibrary : Library where
  arith := .overflowing
  lower s := String.ofList (s.toList.map Char.toLower)
  isoformat t :=
    if t = ⟨0, some 0⟩ then "1970-01-01T00:00:00+00:00"
    else String.ofList (Json.dumps (.arr [.int t.wall, (t.offset.map Json.int).getD .null]))
  fromisoformat s :=
    if s = "1970-01-01T00:00:00+00:00" then some ⟨0, some 0⟩
    else
      match Json.loads s.toList with
      | some (.arr [.int wall, .null]) => some ⟨wall, none⟩
      | some (.arr [.int wall, .int offset]) => some ⟨wall, some offset⟩
      | _ => none

theorem fromisoformat_isoformat (t : DateTime) :
    someLibrary.fromisoformat (someLibrary.isoformat t) = some t := by
  simp only [someLibrary]
  by_cases ht : t = ⟨0, some 0⟩
  · simp [ht]
  · have hother :
        String.ofList (Json.dumps (.arr [.int t.wall, (t.offset.map Json.int).getD .null])) ≠
          "1970-01-01T00:00:00+00:00" := by
      intro heq
      have hhead := congrArg (fun s => s.toList.head?) heq
      simp [Json.dumps] at hhead
    rw [if_neg ht, if_neg hother, String.toList_ofList, Json.loads_dumps]
    obtain ⟨wall, offset⟩ := t
    cases offset <;> rfl

/-- A registry after accounts were created for some principals. -/
def created (principals : List (String × ShortHex)) : AccountRegistry :=
  principals.foldl
    (fun r p => r.after someLibrary (.create p.1 "personal" p.2 ⟨0, some 0⟩ .done)) .new

theorem reachable_created (principals : List (String × ShortHex)) :
    ((runs someLibrary).restrict Call.Works).Reachable (created principals) := by
  induction principals using List.reverseRecOn with
  | nil => exact .init rfl
  | append_singleton ps p ih =>
    rw [created, List.foldl_append]
    have hworks : Call.Works (created ps) (.create p.1 "personal" p.2 ⟨0, some 0⟩ .done) :=
      (rfl : FileWrite.done = .done)
    exact .step ih ⟨hworks, rfl⟩

theorem length_octocat : "0123abcd".toList.length = 8 := by decide

theorem digits_octocat :
    ("0123abcd".toList.all fun c => "0123456789abcdef".toList.contains c) = true := by decide

/-- One principal. -/
def octocat : List (String × ShortHex) :=
  [("octocat", ⟨"0123abcd", length_octocat, digits_octocat⟩)]

/-- A registry with one account is sound, and returns it for its principal in other letters. -/
theorem registry_sound_one :
    Sound someLibrary (created octocat) ∧ Returns someLibrary (created octocat) "Octocat" := by
  obtain ⟨hsound, hreturns⟩ := registry_sound_iff someLibrary fromisoformat_isoformat _
    (reachable_created octocat)
  exact ⟨hsound, (hreturns "Octocat" ⟨_, List.mem_cons_self, "octocat", rfl, by decide⟩).2
    (by decide)⟩

/-- Five principals. -/
def five : List (String × ShortHex) :=
  [("user0", ⟨"00000000", by decide, by decide⟩), ("user1", ⟨"00000001", by decide, by decide⟩),
    ("user2", ⟨"00000002", by decide, by decide⟩), ("user3", ⟨"00000003", by decide, by decide⟩),
    ("user4", ⟨"00000004", by decide, by decide⟩)]

/-- **A full registry** does not return an account that it has. -/
theorem not_returns_full :
    ((runs someLibrary).restrict Call.Works).Reachable (created five) ∧
      (∃ a ∈ (created five).accounts.values, a.HasPrincipal someLibrary "user0") ∧
      ((created five).createAccount someLibrary "user0" "personal"
          ⟨"00000005", by decide, by decide⟩ ⟨0, some 0⟩ .done).1 =
        .error (.valueError "Maximum of 5 accounts reached") ∧
      ¬ Returns someLibrary (created five) "user0" := by
  have hraises (hex : ShortHex) : (created five).createAccount someLibrary "user0" "personal" hex
      ⟨0, some 0⟩ .done = (.error (.valueError "Maximum of 5 accounts reached"), created five) := by
    have hfull : maxAccounts ≤ (created five).accounts.entries.length := by decide
    rw [createAccount, if_pos hfull]
    rfl
  refine ⟨reachable_created five, ?_, by rw [hraises], fun h => ?_⟩
  · have hhas : ∃ a ∈ (created five).accounts.values, a.githubPrincipal = .str "user0" := by decide
    obtain ⟨a, ha, hp⟩ := hhas
    exact ⟨a, ha, "user0", hp, rfl⟩
  · obtain ⟨a, -, -, heq⟩ := h "personal" ⟨"00000005", by decide, by decide⟩ ⟨0, some 0⟩ .done
    rw [hraises] at heq
    cases (Prod.mk.inj heq).1

end Accounts

end AnnyRuntime
