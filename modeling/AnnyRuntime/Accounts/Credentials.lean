import AnnyRuntime.Accounts.Registry
import AnnyRuntime.Secrets.Broker

/-!
# The credential of an account

The registry gives an account the id `acct-…` and makes the reference of its credential from the id
alone, while the broker, the guard and the GitHub manager put another `acct-` before the id.

* `credential_namespaces_iff` : **two accounts share no reference exactly when neither id continues
  the other after a `-`; and no account of any run has a reference that is accepted for it, or that
  its token is stored under.**
* `separate_of_reachable` : the accounts of a run share no reference.
-/

namespace AnnyRuntime

namespace GitHub

/-- A reference of a `GitHubAuthManager`, and the one that it has without an account. -/
def refFor (service unscoped : String) (accountId : Option String) : String :=
  match accountId.filter (· ≠ "") with
  | some id => "acct-" ++ id ++ "-" ++ service
  | none => unscoped

/-- `token_ref`. -/
def tokenRef : Option String → String := refFor "github-token" "github-access-token"

/-- `state_ref`. -/
def stateRef : Option String → String := refFor "github-state" "github-state"

end GitHub

namespace Accounts

open Secrets GitHub

/-- The credential reference of an account is accepted for it, by the broker and by the guard, and
is what the GitHub manager stores its token under. -/
def Account.Usable (a : Account) : Prop :=
  ∃ id ref, a.accountId = .str id ∧ a.credentialRef = .str ref ∧
    BrokerAccepts id ref ∧ GuardAccepts id ref ∧ ref = tokenRef (some id)

/-- Nothing of this holds. -/
def Account.Unusable (a : Account) : Prop :=
  ∃ id ref, a.accountId = .str id ∧ a.credentialRef = .str ref ∧
    ¬ BrokerAccepts id ref ∧ ¬ GuardAccepts id ref ∧ ref ≠ tokenRef (some id)

variable {L : Library} {r : AccountRegistry} {a : Account}

theorem Account.Unusable.not_usable (h : a.Unusable) : ¬ a.Usable := by
  rintro ⟨id, ref, hid, href, haccepts, -⟩
  obtain ⟨id', ref', hid', href', hno, -⟩ := h
  obtain rfl := Json.str.inj (hid.symm.trans hid')
  obtain rfl := Json.str.inj (href.symm.trans href')
  exact hno haccepts

/-! ### References -/

theorem refFor_eq {id : String} (h : id ≠ "") (service unscoped : String) :
    refFor service unscoped (some id) = AccountCredentialBroker.credentialRefFor id service := by
  have hfilter : (some id).filter (· ≠ "") = some id := by simp [h]
  rw [refFor, hfilter]
  rfl

/-- The broker of an account accepts the references of its GitHub manager. -/
theorem brokerAccepts_refs {id : String} (h : id ≠ "") :
    BrokerAccepts id (tokenRef (some id)) ∧ BrokerAccepts id (stateRef (some id)) := by
  rw [tokenRef, stateRef, refFor_eq h, refFor_eq h]
  exact ⟨brokerAccepts_credentialRefFor id _, brokerAccepts_credentialRefFor id _⟩

/-- The ids that the registry gives. -/
theorem toList_newId (hex : ShortHex) : (newId hex).toList = "acct-".toList ++ hex.text.toList := by
  rw [newId, String.toList_append]

theorem newId_ne (hex : ShortHex) : newId hex ≠ "" := by
  intro h
  have hlist := toList_newId hex
  rw [h] at hlist
  cases hlist

/-- No hexadecimal digits look like the start of an id. -/
theorem not_brokerAccepts_newId (hex hex' : ShortHex) :
    ¬ BrokerAccepts (newId hex) (newId hex' ++ "-github-token") := by
  have hparts : (AccountCredentialBroker.refPrefix (newId hex)).toList =
      "acct-".toList ++ ("acct-".toList ++ hex.text.toList ++ ['-']) := by
    simp [AccountCredentialBroker.refPrefix, toList_newId]
  rw [brokerAccepts_iff, hparts, String.toList_append, toList_newId,
    List.append_assoc "acct-".toList hex'.text.toList, List.prefix_append_right_inj,
    List.append_assoc "acct-".toList]
  rintro ⟨rest, hrest⟩
  -- the fourth character is a `t`, and a digit
  have ht := congrArg (fun l => l[3]?) hrest
  have hlt : 3 < hex'.text.toList.length := by
    rw [hex'.length_eq]
    decide
  rw [List.getElem?_append_left hlt] at ht
  have hmem : 't' ∈ hex'.text.toList := List.mem_of_getElem? (i := 3) (ht.symm.trans (by simp))
  exact absurd (List.all_eq_true.1 hex'.digits 't' hmem) (by decide)

/-- **The accounts that are created.** -/
theorem Account.IsMinted.unusable (h : a.IsMinted) : a.Unusable := by
  obtain ⟨hex, hid, href⟩ := h
  have hno := not_brokerAccepts_newId hex hex
  refine ⟨_, _, hid, href, hno, fun hguard => hno (guardAccepts_iff.1 hguard), fun heq => hno ?_⟩
  rw [heq]
  exact (brokerAccepts_refs (newId_ne hex)).1

/-- Ids of one length do not continue each other. -/
theorem not_continues_newId (hex hex' : ShortHex) : ¬ Continues (newId hex) (newId hex') := by
  rintro ⟨rest, hrest⟩
  have hlen := congrArg (fun s => s.toList.length) hrest
  simp [toList_newId, hex.length_eq, hex'.length_eq] at hlen

/-- **The accounts of a run share no reference.** -/
theorem separate_of_reachable (h : (runs L).Reachable r) {k k' : Telemetry.DictKey}
    {a' : Account} (ha : r.accounts.get? k = some a) (ha' : r.accounts.get? k' = some a')
    {id id' : String} (hid : a.accountId = .str id) (hid' : a'.accountId = .str id')
    (hne : id ≠ id') : Separate id id' := by
  obtain ⟨hex, hhex, -⟩ := (minted_of_reachable h).accounts k a ha
  obtain ⟨hex', hhex', -⟩ := (minted_of_reachable h).accounts k' a' ha'
  obtain rfl := Json.str.inj (hid.symm.trans hhex)
  obtain rfl := Json.str.inj (hid'.symm.trans hhex')
  exact (namespaces_separate_iff hne).2 ⟨not_continues_newId _ _, not_continues_newId _ _⟩

/-! ### Namespaces -/

/-- **Credential namespaces.** -/
theorem credential_namespaces_iff (L : Library) :
    (∀ a b, a ≠ b → (Separate a b ↔ ¬ Continues a b ∧ ¬ Continues b a)) ∧
      (∀ githubPrincipal accountType hex now,
        (newAccount githubPrincipal accountType hex now).Unusable) ∧
      ∀ r, (runs L).Reachable r →
        ((∀ a ∈ r.accounts.values, a.Usable) ↔ r.accounts.values = []) ∧
          ∀ a ∈ r.accounts.values, a.Unusable := by
  have hrun (r : AccountRegistry) (h : (runs L).Reachable r) :
      ∀ a ∈ r.accounts.values, a.Unusable := by
    intro a ha
    obtain ⟨k, hk⟩ := Dict.exists_get?_of_mem_values ha
    exact ((minted_of_reachable h).accounts k a hk).unusable
  refine ⟨fun a b => namespaces_separate_iff, fun _ _ _ _ => (isMinted_newAccount _ _ _ _).unusable,
    fun r h => ⟨⟨fun hall => ?_, fun hnil => ?_⟩, hrun r h⟩⟩
  · refine List.eq_nil_iff_forall_not_mem.2 fun a ha => ?_
    exact (hrun r h a ha).not_usable (hall a ha)
  · rw [hnil]
    exact List.forall_mem_nil _

/-- Two accounts that share no reference. -/
theorem credential_namespaces_two : Separate "1" "2" := by
  have hiff := credential_namespaces_iff ⟨.overflowing, id, fun _ => "", fun _ => none⟩
  refine (hiff.1 "1" "2" (by decide)).2 ⟨?_, ?_⟩
  · rw [continues_iff]
    decide
  · rw [continues_iff]
    decide

/-- Eight digits. -/
def someHex : ShortHex := ⟨"0123abcd", by decide, by decide⟩

/-- **A reference that two accounts share, and an account whose reference is not accepted.** -/
theorem not_credential_namespaces :
    (Accepted "1" "acct-1-2-github-token" ∧ Accepted "1-2" "acct-1-2-github-token") ∧
      ¬ Separate "1" "1-2" ∧
      let created := newAccount "octocat" "personal" someHex ⟨0, some 0⟩
      created.accountId = .str "acct-0123abcd" ∧
        created.credentialRef = .str "acct-0123abcd-github-token" ∧
        tokenRef (some "acct-0123abcd") = "acct-acct-0123abcd-github-token" ∧ ¬ created.Usable := by
  have hone : Accepted "1" "acct-1-2-github-token" := accepted_iff_startsWith.2 (by decide)
  have htwo : Accepted "1-2" "acct-1-2-github-token" := accepted_iff_startsWith.2 (by decide)
  exact ⟨⟨hone, htwo⟩, fun h => h _ ⟨hone, htwo⟩, by decide, by decide, by decide,
    (isMinted_newAccount _ _ _ _).unusable.not_usable⟩

end Accounts

end AnnyRuntime
