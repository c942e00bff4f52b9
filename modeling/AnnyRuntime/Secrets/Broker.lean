import AnnyRuntime.Security.Pipeline

/-!
# Credential namespaces

The references of the credentials of an account start with `acct-`, the id of the account and `-`.
All accounts share one secret backend; the broker of an account hands a call on to it when the
reference is in the account's namespace, and the context guard accepts such references only.

* `namespaces_separate_iff` : **two accounts share no reference exactly when neither id continues
  the other after a `-`.**
* `Local.unnoticed` : then, whatever is called on the broker of the one account, the broker of the
  other reads the same secrets and lists the same references.
-/

namespace AnnyRuntime

namespace Secrets

/-! ### Backends -/

/-- `SecretBackend`, with states `σ`: each method, which may raise. -/
structure SecretBackend (σ ε : Type) where
  store : String → List UInt8 → σ → Except ε Bool × σ
  retrieve : String → σ → Except ε (Option (List UInt8))
  delete : String → σ → Except ε Bool × σ
  exists' : String → σ → Except ε Bool
  listReferences : σ → Except ε (List String)

/-- `ContextAccessError`, with its text. -/
structure ContextAccessError where
  message : String
  deriving DecidableEq

/-- What the broker of an account raises. -/
inductive BrokerError (ε : Type) where
  | denied (e : ContextAccessError)
  | raised (e : ε)

/-- `text.startswith(start)`. -/
def startsWith (text start : String) : Bool := start.toList.isPrefixOf text.toList

/-! ### Brokers -/

namespace AccountCredentialBroker

/-- `prefix`. -/
def refPrefix (accountId : String) : String := "acct-" ++ accountId ++ "-"

/-- `_check_namespace`. -/
def checkNamespace (accountId reference : String) : Except ContextAccessError Unit :=
  if startsWith reference (refPrefix accountId) then .ok ()
  else
    .error ⟨"CONTEXT_ACCESS_DENIED: Invalid credential namespace. Expected prefix " ++
      refPrefix accountId ++ ", got " ++ reference⟩

/-- `credential_ref_for`. -/
def credentialRefFor (accountId service : String) : String := refPrefix accountId ++ service

variable {σ ε : Type}

/-- The method of the backend is called when the reference is in the namespace. -/
def checked {α : Type} (accountId reference : String) (answer : Except ε α) :
    Except (BrokerError ε) α :=
  match checkNamespace accountId reference with
  | .error e => .error (.denied e)
  | .ok () => answer.mapError .raised

/-- The state of the backend after such a call. -/
def changed (accountId reference : String) (s s' : σ) : σ :=
  match checkNamespace accountId reference with
  | .error _ => s
  | .ok () => s'

/-- `AccountCredentialBroker`. -/
def broker (backend : SecretBackend σ ε) (accountId : String) :
    SecretBackend σ (BrokerError ε) where
  store reference value s :=
    (checked accountId reference (backend.store reference value s).1,
      changed accountId reference s (backend.store reference value s).2)
  retrieve reference s := checked accountId reference (backend.retrieve reference s)
  delete reference s :=
    (checked accountId reference (backend.delete reference s).1,
      changed accountId reference s (backend.delete reference s).2)
  exists' reference s := checked accountId reference (backend.exists' reference s)
  listReferences s :=
    ((backend.listReferences s).map fun refs =>
      refs.filter fun ref => startsWith ref (refPrefix accountId)).mapError .raised

end AccountCredentialBroker

/-- `ContextGuard.assert_credential_ref`. -/
def assertCredentialRef (ctx : Pipeline.ExecutionContext) (ref : String) :
    Except ContextAccessError Unit :=
  if startsWith ref ("acct-" ++ ctx.accountId ++ "-") then .ok ()
  else
    .error ⟨"CONTEXT_ACCESS_DENIED: Invalid credential namespace. Context=" ++ ctx.accountId ++
      ", Ref=" ++ ref⟩

/-! ### Namespaces -/

open AccountCredentialBroker

/-- The broker of the account accepts the reference. -/
def BrokerAccepts (accountId ref : String) : Prop := checkNamespace accountId ref = .ok ()

/-- The guard accepts it in every context of the account. -/
def GuardAccepts (accountId ref : String) : Prop :=
  ∀ ctx : Pipeline.ExecutionContext, ctx.accountId = accountId →
    assertCredentialRef ctx ref = .ok ()

/-- The broker accepts it, or the guard does in some context of the account. -/
def Accepted (accountId ref : String) : Prop :=
  BrokerAccepts accountId ref ∨
    ∃ ctx : Pipeline.ExecutionContext, ctx.accountId = accountId ∧
      assertCredentialRef ctx ref = .ok ()

/-- No reference is accepted for both accounts. -/
def Separate (a b : String) : Prop := ∀ ref, ¬ (Accepted a ref ∧ Accepted b ref)

/-- The second id is the first one, a `-`, and more. -/
def Continues (a b : String) : Prop := ∃ rest, b = a ++ "-" ++ rest

variable {a b ref : String}

theorem startsWith_iff {text start : String} :
    startsWith text start = true ↔ start.toList <+: text.toList := by
  rw [startsWith, List.isPrefixOf_iff_prefix]

theorem brokerAccepts_iff : BrokerAccepts a ref ↔ (refPrefix a).toList <+: ref.toList := by
  rw [BrokerAccepts, checkNamespace, ← startsWith_iff]
  split_ifs with h <;> simp [h]

theorem assertCredentialRef_iff {ctx : Pipeline.ExecutionContext} :
    assertCredentialRef ctx ref = .ok () ↔ (refPrefix ctx.accountId).toList <+: ref.toList := by
  rw [assertCredentialRef, refPrefix, ← startsWith_iff]
  split_ifs with h <;> simp [h]

/-- The broker and the guard accept the same references. -/
theorem guardAccepts_iff : GuardAccepts a ref ↔ BrokerAccepts a ref := by
  rw [brokerAccepts_iff]
  constructor
  · intro h
    obtain ⟨ctx, rfl⟩ : ∃ ctx : Pipeline.ExecutionContext, ctx.accountId = a :=
      ⟨{ tenantId := "", accountId := a, projectId := "", annyInstanceId := "", runtimeId := ""
         sessionId := "", actorId := "", operationId := "", executionId := "", generation := 0
         issuedAt := ⟨0, none⟩, expiresAt := ⟨0, none⟩ }, rfl⟩
    exact assertCredentialRef_iff.1 (h ctx rfl)
  · rintro h ctx rfl
    exact assertCredentialRef_iff.2 h

theorem accepted_iff_startsWith : Accepted a ref ↔ (refPrefix a).toList <+: ref.toList := by
  rw [Accepted, brokerAccepts_iff, or_iff_left_of_imp]
  rintro ⟨ctx, rfl, h⟩
  exact assertCredentialRef_iff.1 h

theorem continues_iff : Continues a b ↔ a.toList ++ ['-'] <+: b.toList := by
  constructor
  · rintro ⟨rest, rfl⟩
    exact ⟨rest.toList, by simp⟩
  · rintro ⟨rest, hrest⟩
    refine ⟨String.ofList rest, String.toList_injective ?_⟩
    simpa using hrest.symm

/-- One namespace lies in the other when the ids are equal or one continues the other. -/
theorem refPrefix_le_iff :
    (refPrefix a).toList <+: (refPrefix b).toList ↔ a = b ∨ Continues a b := by
  have hlist (c : String) : (refPrefix c).toList = "acct-".toList ++ (c.toList ++ ['-']) := by
    simp [refPrefix]
  rw [hlist, hlist, List.prefix_append_right_inj, List.prefix_concat_iff, continues_iff,
    List.append_cancel_right_eq, String.toList_inj]

/-- **When two accounts share no reference.** -/
theorem namespaces_separate_iff (h : a ≠ b) :
    Separate a b ↔ ¬ Continues a b ∧ ¬ Continues b a := by
  simp only [Separate, accepted_iff_startsWith]
  constructor
  · intro hsep
    refine ⟨fun hab => ?_, fun hba => ?_⟩
    · exact hsep (refPrefix b) ⟨refPrefix_le_iff.2 (.inr hab), List.prefix_rfl⟩
    · exact hsep (refPrefix a) ⟨List.prefix_rfl, refPrefix_le_iff.2 (.inr hba)⟩
  · rintro ⟨hab, hba⟩ ref ⟨ha, hb⟩
    rcases List.prefix_or_prefix_of_prefix ha hb with hle | hle
    · exact hab ((refPrefix_le_iff.1 hle).resolve_left h)
    · exact hba ((refPrefix_le_iff.1 hle).resolve_left h.symm)

/-- A reference that is made for an account is accepted for it. -/
theorem brokerAccepts_credentialRefFor (a service : String) :
    BrokerAccepts a (credentialRefFor a service) := by
  rw [brokerAccepts_iff, credentialRefFor, String.toList_append]
  exact List.prefix_append _ _

theorem checked_congr {ε α : Type} {x y : Except ε α} (h : checkNamespace a ref = .ok () → x = y) :
    checked a ref x = checked a ref y := by
  unfold checked
  cases hc : checkNamespace a ref with
  | error e => rfl
  | ok u => rw [h hc]

/-! ### What the other account notices -/

/-- A call that changes a backend. -/
inductive Write where
  | store (ref : String) (value : List UInt8)
  | delete (ref : String)

namespace SecretBackend

variable {σ ε : Type} {B : SecretBackend σ ε}

/-- The state after a call. -/
def after (B : SecretBackend σ ε) (s : σ) : Write → σ
  | .store ref value => (B.store ref value s).2
  | .delete ref => (B.delete ref s).2

/-- Two states of a backend show the same of some references. -/
structure Same (B : SecretBackend σ ε) (p : String → Bool) (s s' : σ) : Prop where
  retrieve : ∀ ref, p ref = true → B.retrieve ref s' = B.retrieve ref s
  exists' : ∀ ref, p ref = true → B.exists' ref s' = B.exists' ref s
  listed : ((B.listReferences s').map fun refs => refs.filter p) =
    (B.listReferences s).map fun refs => refs.filter p

/-- A call for one reference shows in no other one. -/
structure Local (B : SecretBackend σ ε) : Prop where
  store : ∀ ref value s, B.Same (· ≠ ref) s (B.store ref value s).2
  delete : ∀ ref s, B.Same (· ≠ ref) s (B.delete ref s).2

theorem Same.refl {p : String → Bool} (s : σ) : B.Same p s s :=
  ⟨fun _ _ => rfl, fun _ _ => rfl, rfl⟩

theorem Same.trans {p : String → Bool} {s s' s'' : σ} (h : B.Same p s s') (h' : B.Same p s' s'') :
    B.Same p s s'' where
  retrieve ref hp := (h'.retrieve ref hp).trans (h.retrieve ref hp)
  exists' ref hp := (h'.exists' ref hp).trans (h.exists' ref hp)
  listed := h'.listed.trans h.listed

theorem Same.mono {p q : String → Bool} (hpq : ∀ ref, p ref = true → q ref = true) {s s' : σ}
    (h : B.Same q s s') : B.Same p s s' where
  retrieve ref hp := h.retrieve ref (hpq ref hp)
  exists' ref hp := h.exists' ref (hpq ref hp)
  listed := by
    have hfilter (s : σ) : ((B.listReferences s).map fun refs => refs.filter p) =
        ((B.listReferences s).map fun refs => refs.filter q).map fun refs => refs.filter p := by
      cases B.listReferences s with
      | error e => rfl
      | ok refs =>
        refine congrArg Except.ok (?_ : refs.filter p = (refs.filter q).filter p)
        rw [List.filter_filter]
        exact List.filter_congr fun ref _ => by
          cases hp : p ref with
          | false => rfl
          | true => rw [hpq ref hp, Bool.and_true]
    rw [hfilter, hfilter s, h.listed]

/-- **One call of the broker of another account.** -/
theorem Local.same_after (hB : B.Local) (hsep : Separate a b) (s : σ) (w : Write) :
    B.Same (fun ref => startsWith ref (refPrefix b)) s ((broker B a).after s w) := by
  have hother {ref : String} (hok : checkNamespace a ref = .ok ()) (ref' : String)
      (hb : startsWith ref' (refPrefix b) = true) : decide (ref' ≠ ref) = true := by
    refine decide_eq_true ?_
    rintro rfl
    exact hsep ref' ⟨.inl hok, accepted_iff_startsWith.2 (startsWith_iff.1 hb)⟩
  cases w with
  | store ref value =>
    simp only [after, broker, changed]
    cases hc : checkNamespace a ref with
    | error e => exact Same.refl s
    | ok u => exact (hB.store ref value s).mono (hother hc)
  | delete ref =>
    simp only [after, broker, changed]
    cases hc : checkNamespace a ref with
    | error e => exact Same.refl s
    | ok u => exact (hB.delete ref s).mono (hother hc)

/-- **All its calls.**  The broker of this account reads the same and lists the same. -/
theorem Local.unnoticed (hB : B.Local) (hsep : Separate a b) (s : σ) (ws : List Write) :
    (∀ ref, (broker B b).retrieve ref (ws.foldl (broker B a).after s) =
        (broker B b).retrieve ref s ∧
      (broker B b).exists' ref (ws.foldl (broker B a).after s) = (broker B b).exists' ref s) ∧
      (broker B b).listReferences (ws.foldl (broker B a).after s) =
        (broker B b).listReferences s := by
  have hsame : B.Same (fun ref => startsWith ref (refPrefix b)) s
      (ws.foldl (broker B a).after s) := by
    induction ws generalizing s with
    | nil => exact Same.refl s
    | cons w ws ih => exact (hB.same_after hsep s w).trans (ih _)
  have hb {ref : String} (hc : checkNamespace b ref = .ok ()) :
      startsWith ref (refPrefix b) = true := startsWith_iff.2 (brokerAccepts_iff.1 hc)
  exact ⟨fun ref => ⟨checked_congr fun hc => hsame.retrieve ref (hb hc),
    checked_congr fun hc => hsame.exists' ref (hb hc)⟩, congrArg (Except.mapError _) hsame.listed⟩

end SecretBackend

end Secrets

end AnnyRuntime
