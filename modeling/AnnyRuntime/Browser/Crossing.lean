import AnnyRuntime.Browser.Cdp

/-!
# Replies and connections

Messages are numbered under the lock and the counter is never reset, so no two messages have one
number, whatever connection they were sent on: a late reply of an earlier connection is never taken
for the reply to another message (`Matched.holds`).

The connection is not kept apart so well.  When sending raises an exception, the handler closes and
forgets the connection that there is now, which need not be the one that was sent on:

* `CdpRun.separate_iff` : **in every run every call that returns has the reply to its own message
  from its own connection, no reply is returned twice, and a step of a call on a connection of an
  earlier session leaves the current connection alone exactly when it is not the handler of a send
  that failed.**
-/

namespace AnnyRuntime

namespace Browser

namespace CdpRun

variable {s t : CdpRun}

/-- The calls that returned have their own replies, each once. -/
structure Isolated (s : CdpRun) : Prop where
  own : ∀ x ∈ s.returned, x.reply.id = x.id ∧ x.reply.connection = x.connection
  once : (s.returned.map (·.reply.serial)).Nodup

/-- The step of a thread from `s` to `t` leaves the connection of the current session alone, if the
call that it is in was given a connection of another session. -/
def KeepsCurrent (s t : CdpRun) (k : ℕ) : Prop :=
  ∀ th call c c', s.threads.get? k = some th → th.call = some call → call.connection = some c →
    s.sessionOf c ≠ s.broker.sessionId → s.broker.cdpWs = some c' →
      s.sessionOf c' = s.broker.sessionId →
        t.broker.cdpWs = some c' ∧ t.connections.get? c' = s.connections.get? c'

/-- A send on a connection of another session has failed, and there is a connection of the current
session. -/
def Crosses (s : CdpRun) (k : ℕ) : Prop :=
  ∃ th c message c', s.threads.get? k = some th ∧ th.call = some (.failing c message) ∧
    s.sessionOf c ≠ s.broker.sessionId ∧ s.broker.cdpWs = some c' ∧
      s.sessionOf c' = s.broker.sessionId

/-! ### Messages and replies -/

/-- A message was sent on a connection. -/
def WasSent (s : CdpRun) (c id : ℕ) : Prop := ∃ m ∈ s.sent, m.connection = c ∧ m.id = id

/-- No two messages have one number, and every reply is that to a message. -/
structure Matched (s : CdpRun) : Prop where
  ids : ∀ m ∈ s.sent, m.id ≤ s.msgId
  sent : ∀ m ∈ s.sent, ∀ m' ∈ s.sent, m.id = m'.id → m = m'
  waiting : ∀ k th, s.threads.get? k = some th →
    ∀ c id, th.call = some (.waiting c id) → s.WasSent c id
  serials : ∀ r ∈ s.received, s.received[r.serial]? = some r
  received : ∀ r ∈ s.received, s.WasSent r.connection r.id
  responses : ∀ id r, s.responses.get? id = some r → r.id = id ∧ r ∈ s.received
  returned : ∀ x ∈ s.returned, x.reply ∈ s.received ∧
    ∀ id r, s.responses.get? id = some r → r.serial ≠ x.reply.serial
  isolated : s.Isolated

namespace Matched

theorem init (profileDir : String) (now : ℤ) : Matched (CdpRun.init profileDir now) where
  ids _ h := by cases h
  sent _ h := by cases h
  waiting _ _ h := by cases h
  serials _ h := by cases h
  received _ h := by cases h
  responses _ _ h := by cases h
  returned _ h := by cases h
  isolated := ⟨fun _ h => (by cases h), List.nodup_nil⟩

/-- A step that sends nothing and receives nothing. -/
theorem frame (hs : s.Matched) (hmsg : t.msgId = s.msgId) (hsent : t.sent = s.sent)
    (hreceived : t.received = s.received) (hresponses : t.responses = s.responses)
    (hreturned : t.returned = s.returned)
    (hwaiting : ∀ k th, t.threads.get? k = some th → ∀ c id,
      th.call = some (.waiting c id) → s.WasSent c id) : t.Matched where
  ids := by rw [hsent, hmsg]; exact hs.ids
  sent := by rw [hsent]; exact hs.sent
  waiting := by unfold WasSent; rw [hsent]; exact hwaiting
  serials := by rw [hreceived]; exact hs.serials
  received := by unfold WasSent; rw [hreceived, hsent]; exact hs.received
  responses := by rw [hresponses, hreceived]; exact hs.responses
  returned := by rw [hreturned, hreceived, hresponses]; exact hs.returned
  isolated := ⟨by rw [hreturned]; exact hs.isolated.own, by rw [hreturned]; exact hs.isolated.once⟩

/-- A message gets the next number. -/
theorem numbered (hs : s.Matched) (c : ℕ) (method : String) (fails : Bool) :
    (s.numbered c method fails).Matched := by
  have hmono : ∀ m ∈ s.sent, m ∈ (s.numbered c method fails).sent := by
    intro m hm
    cases fails
    · exact List.mem_append_left _ hm
    · exact hm
  have hwas : ∀ c' id, s.WasSent c' id → (s.numbered c method fails).WasSent c' id := by
    rintro c' id ⟨m, hm, h⟩
    exact ⟨m, hmono m hm, h⟩
  have hcases : ∀ m ∈ (s.numbered c method fails).sent,
      m ∈ s.sent ∨ m = ⟨c, s.msgId + 1, method⟩ := by
    intro m hm
    cases fails
    · exact (List.mem_append.1 hm).imp_right List.mem_singleton.1
    · exact .inl hm
  refine
    { ids := fun m hm => ?_
      sent := fun m hm m' hm' hid => ?_
      waiting := fun k th hk c id hcall => hwas c id (hs.waiting k th hk c id hcall)
      serials := hs.serials
      received := fun r hr => hwas _ _ (hs.received r hr)
      responses := hs.responses
      returned := hs.returned
      isolated := ⟨hs.isolated.own, hs.isolated.once⟩ }
  · obtain hm | rfl := hcases m hm
    · exact Nat.le_succ_of_le (hs.ids m hm)
    · exact le_rfl
  · -- the new number is above all others
    obtain hm | rfl := hcases m hm <;> obtain hm' | rfl := hcases m' hm'
    · exact hs.sent m hm m' hm' hid
    · have hle := hs.ids m hm
      rw [hid] at hle
      exact absurd hle (Nat.not_succ_le_self _)
    · have hle := hs.ids m' hm'
      rw [← hid] at hle
      exact absurd hle (Nat.not_succ_le_self _)
    · rfl

/-- A thread changes that does not wait for a reply. -/
theorem moved (hs : s.Matched) (k : ℕ) (th : CdpThread) (lock : Option ℕ)
    (h : ∀ c id, th.call = some (.waiting c id) → s.WasSent c id) : (s.moved k th lock).Matched :=
  hs.frame rfl rfl rfl rfl rfl (Dict.forall_get?_set hs.waiting h)

/-- A reply arrives. -/
theorem arrived (hs : s.Matched) {c id : ℕ} (outcome : Except String CdpResult)
    (hsent : s.WasSent c id) : (s.arrived c id outcome).Matched := by
  have hlast : (s.received ++ [⟨s.received.length, c, id, outcome⟩])[s.received.length]? =
      some ⟨s.received.length, c, id, outcome⟩ := by simp
  have hold : ∀ r ∈ s.received, (s.received ++ [⟨s.received.length, c, id, outcome⟩])[r.serial]? =
      some r := by
    intro r hr
    have hget := hs.serials r hr
    rw [List.getElem?_append_left (List.getElem?_eq_some_iff.1 hget).choose]
    exact hget
  refine
    { ids := hs.ids
      sent := hs.sent
      waiting := hs.waiting
      serials := fun r hr => ?_
      received := fun r hr => ?_
      responses := fun id' r hr => ?_
      returned := fun x hx => ⟨List.mem_append_left _ (hs.returned x hx).1, fun id' r hr => ?_⟩
      isolated := ⟨hs.isolated.own, hs.isolated.once⟩ }
  · obtain hr | hr := List.mem_append.1 hr
    · exact hold r hr
    · obtain rfl := List.mem_singleton.1 hr
      exact hlast
  · obtain hr | hr := List.mem_append.1 hr
    · exact hs.received r hr
    · obtain rfl := List.mem_singleton.1 hr
      exact hsent
  · obtain ⟨rfl, rfl⟩ | ⟨-, hr⟩ := Dict.of_get?_set hr
    · exact ⟨rfl, List.mem_append_right _ List.mem_cons_self⟩
    · exact ⟨(hs.responses id' r hr).1, List.mem_append_left _ (hs.responses id' r hr).2⟩
  · obtain ⟨rfl, rfl⟩ | ⟨-, hr⟩ := Dict.of_get?_set hr
    · -- the serials of the replies that were returned are below this one
      have hlt := (List.getElem?_eq_some_iff.1 (hs.serials _ (hs.returned x hx).1)).choose
      exact fun heq => absurd hlt (by rw [← heq]; exact lt_irrefl _)
    · exact (hs.returned x hx).2 id' r hr

/-- A reply is taken out of the table. -/
theorem replied (hs : s.Matched) {k c id : ℕ} {th : CdpThread} {r : Reply}
    (hk : s.threads.get? k = some th) (hcall : th.call = some (.waiting c id))
    (hr : s.responses.get? id = some r) : (s.replied k th c id r).Matched := by
  obtain ⟨hid, hreceived⟩ := hs.responses id r hr
  have hconnection : r.connection = c := by
    obtain ⟨m, hm, hmc, hmid⟩ := hs.waiting k th hk c id hcall
    obtain ⟨m', hm', hmc', hmid'⟩ := hs.received r hreceived
    rw [← hmc, ← hmc', hs.sent m' hm' m hm (by rw [hmid', hid, hmid])]
  refine
    { ids := hs.ids
      sent := hs.sent
      waiting := Dict.forall_get?_set hs.waiting fun c id h => by
        simp only [CdpThread.call_answered, reduceCtorEq] at h
      serials := hs.serials
      received := hs.received
      responses := fun id' r' hr' => hs.responses id' r' (Dict.of_get?_erase hr').2
      returned := fun x hx => ?_
      isolated := ⟨fun x hx => ?_, ?_⟩ }
  · obtain hx | hx := List.mem_append.1 hx
    · exact ⟨(hs.returned x hx).1, fun id' r' hr' =>
        (hs.returned x hx).2 id' r' (Dict.of_get?_erase hr').2⟩
    · obtain rfl := List.mem_singleton.1 hx
      refine ⟨hreceived, fun id' r' hr' heq => ?_⟩
      obtain ⟨hne, hr'⟩ := Dict.of_get?_erase hr'
      obtain ⟨hid', hreceived'⟩ := hs.responses id' r' hr'
      -- a serial names one reply, and a reply one number
      have hsame := (hs.serials r' hreceived').symm.trans (heq ▸ hs.serials r hreceived)
      rw [← hid', Option.some.inj hsame, hid] at hne
      exact hne rfl
  · obtain hx | hx := List.mem_append.1 hx
    · exact hs.isolated.own x hx
    · obtain rfl := List.mem_singleton.1 hx
      exact ⟨hid, hconnection⟩
  · change ((s.returned ++ [_]).map _).Nodup
    rw [List.map_append, List.nodup_append]
    refine ⟨hs.isolated.once, List.nodup_singleton _, fun n hn n' hn' => ?_⟩
    obtain ⟨x, hx, rfl⟩ := List.mem_map.1 hn
    obtain rfl := List.mem_singleton.1 hn'
    exact ((hs.returned x hx).2 id r hr).symm

theorem step (hs : s.Matched) {e : CdpEvent} (h : s.Step e t) : t.Matched := by
  have hnone : ∀ th : CdpThread, th.call = none → ∀ c id,
      th.call = some (.waiting c id) → s.WasSent c id := by
    intro th hth c id hcall
    cases hth.symm.trans hcall
  cases h with
  | command hk => exact hs.moved _ _ _ (hnone _ rfl)
  | begins hk hcall hp => exact hs.moved _ _ _ fun _ _ h => by cases h
  | ran hk hcall hu hstep =>
    exact hs.frame rfl rfl rfl rfl rfl (Dict.forall_get?_set hs.waiting (hnone _ hcall))
  | @started k input th p next hk hcall hp hj =>
    exact hs.frame rfl rfl rfl rfl rfl (Dict.forall_get?_set (Dict.forall_get?_set hs.waiting
      (hnone { th with program := next } hcall)) (hnone { program := p } rfl))
  | @sentAsync k input th method params next fails hk hcall hp =>
    unfold CdpRun.sentAsync
    split
    · exact hs.moved _ _ _ (hnone { th with program := next } hcall)
    · refine (hs.numbered _ method _).moved _ _ _ fun c id h => ?_
      cases hcall.symm.trans h
  | moved lock hk hcall hwaits =>
    exact hs.moved _ _ _ fun c id h => absurd (Option.some.inj h) (hwaits c id)
  | connected hk hcall hc =>
    exact hs.frame rfl rfl rfl rfl rfl (Dict.forall_get?_set hs.waiting fun _ _ h => by cases h)
  | assigned hk hcall =>
    exact hs.frame rfl rfl rfl rfl rfl (Dict.forall_get?_set hs.waiting fun _ _ h => by cases h)
  | sent hk hcall =>
    refine (hs.numbered _ _ false).moved _ _ _ fun c id h => ?_
    -- the message that the thread waits for is the one that was just sent
    cases h
    exact ⟨_, List.mem_append_right _ List.mem_cons_self, rfl, rfl⟩
  | failed hk hcall =>
    exact (hs.numbered _ _ true).moved _ _ _ fun _ _ h => by cases h
  | raised lock e hk hcall => exact hs.moved _ _ _ (hnone _ (CdpThread.call_answered _ _))
  | gaveUp hk hcall hws =>
    exact hs.frame rfl rfl rfl rfl rfl
      (Dict.forall_get?_set hs.waiting (hnone _ (CdpThread.call_answered _ _)))
  | replied hk hcall hr => exact hs.replied hk hcall hr
  | arrived outcome hsent => exact hs.arrived outcome hsent
  | page hk =>
    refine hs.frame rfl rfl rfl rfl rfl fun k' th' hk' => ?_
    dsimp only at hk'
    split_ifs at hk'
    · exact Dict.forall_get?_set hs.waiting (hnone { program := _ } rfl) k' th' hk'
    · exact hs.waiting k' th' hk'
  | exit => exact hs.frame rfl rfl rfl rfl rfl hs.waiting
  | clock now => exact hs.frame rfl rfl rfl rfl rfl hs.waiting

/-- **No reply is taken for that to another message.** -/
theorem holds (h : cdp.Reachable s) : s.Matched :=
  System.Invariant.holds (I := Matched)
    { init := fun _ h => by
        obtain ⟨profileDir, now, rfl⟩ := h
        exact .init profileDir now
      step := fun _ _ _ hs h => hs.step (next_step h) } h

end Matched

/-! ### The current connection -/

/-- Within a request, only the handler of a failed send touches the current connection. -/
theorem keepsCurrent_callStep {k : ℕ} {th : CdpThread} {input : Input} {call : Call}
    (hk : s.threads.get? k = some th) (hcall : th.call = some call)
    (h : s.callStep k th input call = some t) : s.KeepsCurrent t k ↔ ¬ s.Crosses k := by
  have hkeeps : t.broker.cdpWs = s.broker.cdpWs → t.connections = s.connections →
      s.KeepsCurrent t k := by
    intro hws hconnections th call c c' _ _ _ _ hc' _
    rw [hws, hconnections]
    exact ⟨hc', rfl⟩
  have hno : (∀ c message, call ≠ .failing c message) → ¬ s.Crosses k := by
    rintro hne ⟨th', c, message, c', hk', hcall', -⟩
    rw [hk] at hk'
    obtain rfl := Option.some.inj hk'
    rw [hcall] at hcall'
    exact hne c message (Option.some.inj hcall')
  have hfree : call.connection = none → s.KeepsCurrent t k := by
    intro hnone th' call' c c' hk' hcall' hc
    rw [hk] at hk'
    obtain rfl := Option.some.inj hk'
    rw [hcall] at hcall'
    obtain rfl := Option.some.inj hcall'
    cases hnone.symm.trans hc
  cases call with
  | getWs | connecting | connected c | returning =>
    exact iff_of_true (hfree rfl) (hno fun _ _ h => Call.noConfusion h)
  | send c =>
    refine iff_of_true ?_ (hno fun _ _ h => Call.noConfusion h)
    simp only [callStep, Option.ite_none_left_eq_some] at h
    obtain ⟨-, h⟩ := h
    split at h
    · simp only [Option.ite_none_right_eq_some, Option.some.injEq] at h
      obtain ⟨-, rfl⟩ := h
      exact hkeeps rfl rfl
    · cases h
      exact hkeeps rfl rfl
  | waiting c id =>
    refine iff_of_true ?_ (hno fun _ _ h => Call.noConfusion h)
    simp only [callStep] at h
    split at h
    · cases h
      exact hkeeps rfl rfl
    · split_ifs at h <;> cases h <;> exact hkeeps rfl rfl
  | failing c message =>
    simp only [callStep] at h
    split at h
    · rename_i hws
      cases h
      refine iff_of_true (hkeeps rfl rfl) ?_
      rintro ⟨_, _, _, c', _, _, _, hc', _⟩
      cases hws.symm.trans hc'
    · rename_i c' hws
      cases h
      constructor
      · rintro hkeeps ⟨th', c₁, message', c₁', hk', hcall', hother, hws', hcurrent⟩
        -- the handler has forgotten the connection
        cases (hkeeps th' _ c₁ c₁' hk' hcall' rfl hother hws' hcurrent).1
      · intro hcrosses th' call' c₁ c₁' hk' hcall' hc hother hws' hcurrent
        rw [hk] at hk'
        obtain rfl := Option.some.inj hk'
        rw [hcall] at hcall'
        obtain rfl := Option.some.inj hcall'
        cases hc
        exact absurd ⟨th, c, message, c₁', hk, hcall, hother, hws', hcurrent⟩ hcrosses

/-- **When the replies and the connections of different sessions are kept apart.** -/
theorem separate_iff (h : cdp.Reachable s) :
    s.Isolated ∧ ∀ k input t, s.next (.run k input) = some t →
      (s.KeepsCurrent t k ↔ ¬ s.Crosses k) := by
  refine ⟨(Matched.holds h).isolated, fun k input t hnext => ?_⟩
  obtain ⟨th, hk, hrun⟩ := Option.bind_eq_some_iff.1 hnext
  unfold runThread at hrun
  split at hrun
  · rename_i call hcall
    exact keepsCurrent_callStep hk hcall hrun
  · rename_i hcall
    -- a thread that is in no request was given no connection
    have hnone : ∀ th' call, s.threads.get? k = some th' → th'.call ≠ some call := by
      intro th' call hk' hcall'
      rw [hk] at hk'
      obtain rfl := Option.some.inj hk'
      cases hcall.symm.trans hcall'
    refine iff_of_true (fun th' call c c' hk' hcall' => absurd hcall' (hnone th' call hk')) ?_
    rintro ⟨th', c, message, c', hk', hcall', -⟩
    exact hnone th' _ hk' hcall'

/-! ### A send that fails late -/

/-- A page is observed, up to the message that is sent for it; the browser is restarted, and a
connection to the new one is made. -/
def restartedRun (late : List CdpEvent) : List CdpEvent :=
  startRun 0 "s1" ++ [ask 1 .observe] ++ steps 1 ["o1"] ++ connectRun 1 1 "s1" ++ late ++
    restartRun 2 "s2" ++ [ask 3 .observe] ++ steps 3 ["o2"] ++ connectRun 3 2 "s2"

/-- Sending raises an exception after that. -/
def lateFailure : List CdpEvent :=
  restartedRun [] ++ [.run 1 { failure := some "socket is already closed." }]

/-- The first call waits when the browser is restarted, and leaves the new connection alone. -/
theorem separate_waiting : ∃ s t, cdp.Reachable s ∧ s.broker.cdpWs = some 2 ∧
    s.next (.run 1 { timedOut := true }) = some t ∧ s.Isolated ∧ s.KeepsCurrent t 1 := by
  have hrun : (System.runFn next (init "colab" 0) (restartedRun [.run 1 {}])).map
      (fun s => (s.broker.cdpWs, (s.threads.get? 1).map (·.call),
        (s.next (.run 1 { timedOut := true })).isSome)) =
      some (some 2, some (some (.waiting 1 1)), true) := by
    decide +kernel
  obtain ⟨s, hs, heq⟩ := Option.map_eq_some_iff.1 hrun
  simp only [Prod.mk.injEq] at heq
  obtain ⟨hws, hcall, hnext⟩ := heq
  obtain ⟨t, ht⟩ := Option.isSome_iff_exists.1 hnext
  have hreach : cdp.Reachable s := System.reachable_runFn (.init ⟨"colab", 0, rfl⟩) hs
  refine ⟨s, t, hreach, hws, ht, (separate_iff hreach).1, ((separate_iff hreach).2 1 _ t ht).2 ?_⟩
  rintro ⟨th, c, message, c', hk, hfailing, -⟩
  rw [hk, Option.map_some, hfailing] at hcall
  cases hcall

/-- A send on the connection of the first session fails, and the handler closes and forgets the
connection of the second. -/
theorem not_separate : ¬ ∀ s t k input, cdp.Reachable s → s.next (.run k input) = some t →
    s.KeepsCurrent t k := by
  intro h
  have hrun : (System.runFn next (init "colab" 0) lateFailure).map
      (fun s => (s.broker.cdpWs, [s.broker.sessionId, s.sessionOf 1, s.sessionOf 2],
        (s.threads.get? 1).map (·.call), (s.next (.run 1 {})).any fun t => t.broker.cdpWs.isNone)) =
      some (some 2, [some "s2", some "s1", some "s2"],
        some (some (.failing 1 "socket is already closed.")), true) := by
    decide +kernel
  obtain ⟨s, hs, heq⟩ := Option.map_eq_some_iff.1 hrun
  simp only [Prod.mk.injEq, List.cons.injEq, and_true] at heq
  obtain ⟨hws, ⟨hsession, hfirst, hsecond⟩, hcall, hnext⟩ := heq
  obtain ⟨th, hk, hcall⟩ := Option.map_eq_some_iff.1 hcall
  obtain ⟨t, ht, hforgotten⟩ := (Option.any_eq_true _ _).1 hnext
  have hkeeps := h s t 1 {} (System.reachable_runFn (.init ⟨"colab", 0, rfl⟩) hs) ht th _ 1 2 hk
    hcall rfl (by rw [hfirst, hsession]; decide) hws (by rw [hsecond, hsession])
  rw [hkeeps.1] at hforgotten
  cases hforgotten

end CdpRun

end Browser

end AnnyRuntime
