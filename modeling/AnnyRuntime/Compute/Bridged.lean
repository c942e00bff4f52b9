import AnnyRuntime.Compute.Colab

/-!
# Which jobs of the Colab provider run

Only a session that is ready accepts a job.  The browser transport makes its sessions ready; the
transport of the command line tool never does: a new session is connected, and what the tool says of
it makes it connected, failed or terminated.

* `ran_over_bridge` : whatever the threads do, whatever bridge and tool answer, and whether or not
  the steps are orderly, every job that runs runs over a bridge, for a session that was opened in
  the browser; the command line tool is never given a job.
-/

namespace AnnyRuntime

namespace Compute

namespace Colab

variable {s t : State} {tid : ℕ} {th : Thread} {answer : Answer}

/-- The jobs that the last step ran were run over the bridge in the slot, for sessions of the
browser transport. -/
def Bridged (s : State) : Prop :=
  ∀ j b, .ran j b ∈ s.effects → b.isSome = true ∧ b = s.slot ∧ s.transportOf j = some .browser

theorem bridged_of_quiet (h : s.effects = []) : Bridged s := by
  intro j b hmem
  rw [h] at hmem
  cases hmem

/-- A thread goes on or ends, without effects. -/
theorem Wired.steps (h : Wired s) (tid : ℕ) {next : Option Thread}
    (hnext : ∀ th' ∈ next, th'.Wired s.transportOf s.hasEnded) :
    Wired (s.move tid next) ∧ Bridged (s.move tid next) :=
  ⟨h.moved tid hnext, bridged_of_quiet rfl⟩

theorem Wired.ends (h : Wired s) (tid : ℕ) :
    Wired (s.move tid none) ∧ Bridged (s.move tid none) :=
  h.steps tid fun th' hth' => by cases hth'

/-- A thread assigns a state, and goes on or ends. -/
theorem Wired.assigns (h : Wired s) (tid : ℕ) {next : Option Thread} {j : ℕ}
    {st : RemoteSessionState} (hst : s.transportOf j = some .cli → st ≠ .ready)
    (hnext : ∀ th' ∈ next, th'.Wired s.transportOf (s.assign j st).hasEnded) :
    Wired ((s.assign j st).move tid next) ∧ Bridged ((s.assign j st).move tid next) :=
  ⟨h.assigned tid hst hnext, bridged_of_quiet rfl⟩

/-- The thread of a `provision` goes on. -/
theorem Wired.opens (h : Wired s) (hsessions : t.sessions = s.sessions)
    (hnext : t.nextSession = s.nextSession)
    (hthreads : t.threads = Function.update s.threads tid (some th)) (heffects : t.effects = [])
    (hth : th.Wired s.transportOf s.hasEnded) : Wired t ∧ Bridged t := by
  refine ⟨h.move (some th) hsessions hnext hthreads fun th' hth' => ?_, bridged_of_quiet heffects⟩
  obtain rfl := Option.some.inj hth'
  exact hth

/-- An operation that looked at the state of its session: only a session of the browser transport
is ready for a job. -/
theorem Wired.proceeds (h : Wired s) {op : Op} {tr : Transport} {j : ℕ}
    (hj : s.transportOf j = some tr)
    (hstep : s.stepThread tid (.checkState op tr j) .nothing = some t) : Wired t ∧ Bridged t := by
  obtain ⟨x, hx, rfl⟩ := Option.map_eq_some_iff.1 hstep
  refine h.steps tid fun th' hth' => ?_
  split_ifs at hth' with hproceeds
  · obtain rfl := Option.some.inj hth'
    cases tr with
    | browser => exact hj
    | cli =>
      refine ⟨hj, ?_⟩
      obtain ⟨x', hx', htr⟩ := exists_session hj
      obtain rfl := Option.some.inj (hx.symm.trans hx')
      cases op with
      | health => rfl
      | execute code =>
        exact absurd (of_decide_eq_true hproceeds) ((h.sessions j x hx).cli htr).2
  · cases hth'

/-- An operation of the browser transport in the lock. -/
theorem Wired.locked (h : Wired s) {op : Op} {j : ℕ} {names : Option (List String)}
    (hj : s.transportOf j = some .browser)
    (hstep : s.stepThread tid (.locking op j) (.tools names) = some t) : Wired t ∧ Bridged t := by
  cases op with
  | health =>
    obtain rfl := Option.some.inj hstep
    refine h.assigns tid (fun hcli => ?_) fun th' hth' => by cases hth'
    rw [hj] at hcli
    cases hcli
  | execute code =>
    obtain rfl := Option.some.inj hstep
    refine ⟨h.move none rfl rfl rfl (fun th' hth' => by cases hth'), fun j' b hmem => ?_⟩
    change Effect.ran j' b ∈
      (if (s.slot.isSome && callsTool code names) = true then [.ran j s.slot] else []) at hmem
    by_cases hruns : (s.slot.isSome && callsTool code names) = true
    · rw [if_pos hruns] at hmem
      obtain ⟨rfl, rfl⟩ := Effect.ran.inj (List.mem_singleton.1 hmem)
      exact ⟨(Bool.and_eq_true_iff.1 hruns).1, rfl, hj⟩
    · rw [if_neg hruns] at hmem
      cases hmem

/-- **One step of a thread**, orderly or not. -/
theorem Wired.anyStep (h : Wired s) (hth : th.Wired s.transportOf s.hasEnded)
    (hstep : s.stepThread tid th answer = some t) : Wired t ∧ Bridged t := by
  cases th with
  | provision c =>
    cases answer with
    | nothing =>
      rw [State.stepThread] at hstep
      split_ifs at hstep with hcredentials
      · obtain rfl := Option.some.inj hstep
        exact h.ends tid
      · obtain rfl := Option.some.inj hstep
        refine h.opens rfl rfl rfl rfl ?_
        cases c.transport <;> trivial
    | _ => cases hstep
  | opening c now =>
    cases answer with
    | attached failure =>
      cases failure with
      | none =>
        obtain rfl := Option.some.inj hstep
        refine h.opens rfl rfl rfl rfl ⟨wired_openedSession c now _, fun hcli => ?_⟩
        cases hcli
      | some message =>
        obtain rfl := Option.some.inj hstep
        exact h.opens rfl rfl rfl rfl ⟨wired_failedSession c now message, fun _ => rfl⟩
    | _ => cases hstep
  | creating c =>
    cases answer with
    | raised =>
      obtain rfl := Option.some.inj hstep
      exact h.ends tid
    | created =>
      obtain rfl := Option.some.inj hstep
      refine h.opens rfl rfl rfl rfl ⟨wired_createdSession c s.clock, fun hbrowser => ?_⟩
      cases hbrowser
    | _ => cases hstep
  | deliver x =>
    cases answer with
    | nothing =>
      obtain rfl := Option.some.inj hstep
      exact ⟨h.deliver hth.1, bridged_of_quiet rfl⟩
    | _ => cases hstep
  | checkLease op tr j =>
    cases answer with
    | nothing =>
      obtain ⟨x, hx, rfl⟩ := Option.map_eq_some_iff.1 hstep
      refine h.steps tid fun th' hth' => ?_
      obtain rfl := Option.some.inj hth'
      split_ifs
      · exact hth
      · exact hth
    | _ => cases hstep
  | expire op tr j =>
    cases answer with
    | nothing =>
      obtain rfl := Option.some.inj hstep
      refine h.assigns tid (fun _ => by decide) fun th' hth' => ?_
      obtain rfl := Option.some.inj hth'
      exact hth
    | _ => cases hstep
  | checkState op tr j =>
    cases answer with
    | nothing => exact h.proceeds hth hstep
    | _ => cases hstep
  | locking op j =>
    cases answer with
    | tools names => exact h.locked hth hstep
    | _ => cases op <;> cases hstep
  | running op j =>
    obtain ⟨hj, rfl⟩ := hth
    cases answer with
    | raised =>
      obtain rfl := Option.some.inj hstep
      exact h.ends tid
    | status gone word =>
      obtain rfl := Option.some.inj hstep
      cases hst : stateOfStatus gone word with
      | none => exact h.ends tid
      | some st =>
        exact h.assigns tid (fun _ => (alive_stateOfStatus hst).1) fun th' hth' => by cases hth'
    | _ => cases hstep
  | terminate tr j =>
    cases tr with
    | browser =>
      cases answer with
      | nothing =>
        obtain rfl := Option.some.inj hstep
        refine h.assigns tid (fun _ => by decide) fun th' hth' => ?_
        obtain rfl := Option.some.inj hth'
        exact ⟨hth, hasEnded_assign hth rfl⟩
      | _ => cases hstep
    | cli =>
      obtain rfl := Option.some.inj hstep
      refine h.steps tid fun th' hth' => ?_
      obtain rfl := Option.some.inj hth'
      exact hth
  | stopping j =>
    cases answer with
    | nothing =>
      obtain rfl := Option.some.inj hstep
      refine ⟨h.move (some (.returning j)) rfl rfl rfl fun th' hth' => ?_, fun j' b hmem => ?_⟩
      · obtain rfl := Option.some.inj hth'
        exact hth.2
      · cases hslot : s.slot with
        | none => simp [hslot] at hmem
        | some b' => simp [hslot] at hmem
    | _ => cases hstep
  | forcing j =>
    cases answer with
    | nothing =>
      obtain rfl := Option.some.inj hstep
      refine h.assigns tid (fun _ => by decide) fun th' hth' => ?_
      obtain rfl := Option.some.inj hth'
      exact hasEnded_assign hth rfl
    | _ => cases hstep
  | returning j =>
    cases answer with
    | nothing =>
      obtain rfl := Option.some.inj hstep
      exact (h.ended j).ends tid
    | _ => cases hstep

/-- A call has no job as its effect. -/
theorem Wired.calls (h : Wired s) {c : Call} {effects : List Effect}
    (hentry : s.entry c = some (th, effects)) :
    Wired { s.move tid (some th) with effects := effects } ∧
      Bridged { s.move tid (some th) with effects := effects } := by
  obtain ⟨context, rfl, rfl, rfl⟩ | ⟨j, x, -, -, hth, rfl⟩ := entry_eq_some hentry
  · exact h.opens rfl rfl rfl rfl trivial
  · refine ⟨h.move _ rfl rfl rfl fun th' hth' => ?_, fun j' b hmem => ?_⟩
    · obtain rfl := Option.some.inj hth'
      exact hth
    · cases List.mem_singleton.1 hmem

/-- **One step**, orderly or not. -/
theorem Wired.anyNext {a : Action} (h : Wired s) (hnext : s.next a = some t) :
    Wired t ∧ Bridged t := by
  cases a with
  | tick d =>
    obtain rfl := Option.some.inj hnext
    exact ⟨⟨h.sessions, h.fresh, h.threads⟩, bridged_of_quiet rfl⟩
  | call tid c =>
    rw [State.next] at hnext
    split_ifs at hnext with hnone
    obtain ⟨⟨th, effects⟩, hentry, rfl⟩ := Option.map_eq_some_iff.1 hnext
    exact h.calls hentry
  | step tid answer =>
    obtain ⟨th, hth, hstep⟩ := Option.bind_eq_some_iff.1 hnext
    exact h.anyStep (h.threads tid th hth) hstep

/-- **Which jobs run.**  After any run of the provider, by any number of threads: a job that the
last step ran was run over the bridge that is in the slot, for a session that was opened in the
browser; and a session of the command line tool is not ready for a job. -/
theorem ran_over_bridge (as : List Action) (s : State)
    (hrun : System.runFn State.next {} as = some s) :
    (∀ j b, .ran j b ∈ s.effects →
      b.isSome = true ∧ b = s.slot ∧
        ∃ x, s.sessions j = some x ∧ x.provisionedBy = .browser ∧ x.bridge.isSome = true) ∧
    ∀ j x, s.sessions j = some x → x.provisionedBy = .cli → x.data.state ≠ .ready := by
  have hkept : Wired s ∧ Bridged s := by
    refine System.runFn_keeps (I := fun s => Wired s ∧ Bridged s)
      ⟨wired_start, bridged_of_quiet rfl⟩ ?_ (List.append_nil as).symm hrun
    intro before a rest s t _ _ hnext h
    exact h.1.anyNext hnext
  obtain ⟨hwired, hbridged⟩ := hkept
  refine ⟨fun j b hmem => ?_, fun j x hx hcli => ?_⟩
  · obtain ⟨hsome, hslot, htr⟩ := hbridged j b hmem
    obtain ⟨x, hx, hx'⟩ := exists_session htr
    exact ⟨hsome, hslot, x, hx, (hwired.sessions j x hx).browser hx'⟩
  · refine ((hwired.sessions j x hx).cli ?_).2
    cases htr : x.transport with
    | cli => rfl
    | browser =>
      have hbrowser := ((hwired.sessions j x hx).browser htr).1
      rw [hcli] at hbrowser
      cases hbrowser

/-- A job of the second session runs, over its bridge. -/
theorem ran_over_bridge_second :
    ∃ s, System.runFn State.next {} (twoSessions ++ [.step 0 offered]) = some s ∧
      .ran 0 (some 1) ∈ s.effects ∧ (some 1 : Option ℕ).isSome = true ∧ some 1 = s.slot := by
  have hrun : ∃ s, System.runFn State.next {} (twoSessions ++ [.step 0 offered]) = some s :=
    ⟨_, rfl⟩
  obtain ⟨s, hs⟩ := hrun
  have heffects : .ran 0 (some 1) ∈ s.effects := by
    obtain rfl := Option.some.inj hs
    exact List.mem_singleton_self _
  obtain ⟨hsome, hslot, -⟩ := (ran_over_bridge _ s hs).1 0 (some 1) heffects
  exact ⟨s, hs, heffects, hsome, hslot⟩

end Colab

end Compute

end AnnyRuntime
