import RemoteController.Udp.Framing

/-!
# Control frames and the segmentation of the stream

The connection may cut the stream anywhere, both where `send` takes a part of what it
was given and where `recv` returns a part of what it was asked for.

* `writes_cases`, `send_cases`, `recv_cases`: what a step does to the bytes.
* `Sent.round`, `recv_round`: a call of `send` or `recv` is a round of `sendAll` or
  `receiveAll`.
* `Refines`: the direction as a `ControlStream`, one call at a time.
* `framing_exact`: whatever the segmentation, the frames arrive as they were sent.
* `cut_frame_misaligns`: after a `SendAll` that failed they need not.
-/

namespace RemoteController

open Lib Protocol

namespace Framing

/-! ### The statement -/

/-- Every `send` hands something over. -/
def Sends (_ : State) : Label → Prop
  | .send _ result => 0 < result
  | _ => True

/-- **The frames arrive as they were sent.** -/
structure Exact (s : State) : Prop where
  /-- No two threads are in `SendAll`, so the frames have an order... -/
  alone : ∀ w w' call call', s.call w = some call → s.call w' = some call' → w = w'
  /-- ...and in this order `ReceiveAll` has returned them, byte for byte. -/
  inOrder : s.returned <+: s.begun.map PlaintextControlFrameV1.toBytes
  /-- Not a byte is consumed beyond the frame that is being received. -/
  consumed : ∃ part, s.consumed = s.returned.flatten ++ part ∧ part.length < 32 ∧
    (s.receiver = .idle → part = []) ∧
    ∀ bytes received left, s.receiver = .receiving bytes received left →
      (part.length : Int) = received
  /-- With no `send` to come and nothing under way, all are there. -/
  arrived : (∀ w frame sent left, s.call w ≠ some ⟨frame, .calling sent left⟩) → s.wire = [] →
    s.returned = s.begun.map PlaintextControlFrameV1.toBytes ∧ s.consumed = s.returned.flatten
  asked : ∀ n ∈ s.asked, 0 < n

variable {s t : State}

/-! ### The bytes -/

/-- What a `SendAll` has still to hand over. -/
def SendAll.rest : SendAll → List UInt8
  | ⟨frame, .calling sent _⟩ => frame.toBytes.drop sent.toNat
  | ⟨_, .returned _⟩ => []

def State.restOf (s : State) (w : Writer) : List UInt8 := ((s.call w).map SendAll.rest).getD []

def State.pending (s : State) : List UInt8 :=
  s.restOf .starting ++ s.restOf .controlLoop ++ s.restOf .stop

theorem restOf_none {w : Writer} (h : s.call w = none) : s.restOf w = [] := by
  rw [State.restOf, h]
  rfl

theorem restOf_some {w : Writer} {call : SendAll} (h : s.call w = some call) :
    s.restOf w = call.rest := by
  rw [State.restOf, h]
  rfl

theorem restOf_starting {starting : Starting} (h : s.starting = starting) :
    s.restOf .starting = { s with starting := starting }.restOf .starting := by
  rw [← h]

theorem restOf_loop {loop : Looping} (h : s.loop = loop) :
    s.restOf .controlLoop = { s with loop := loop }.restOf .controlLoop := by
  rw [← h]

theorem restOf_stop {stop : Stopping} (h : s.stop = stop) :
    s.restOf .stop = { s with stop := stop }.restOf .stop := by
  rw [← h]

/-- The step leaves all bytes where they are; at most a `SendAll` that is done returns. -/
structure Same (s t : State) : Prop where
  call : ∀ w, t.call w = s.call w ∨ t.call w = none ∧ s.restOf w = []
  wire : t.wire = s.wire
  receiver : t.receiver = s.receiver
  begun : t.begun = s.begun
  consumed : t.consumed = s.consumed
  returned : t.returned = s.returned
  asked : t.asked = s.asked

/-- The thread `w` begins a `SendAll`. -/
structure Begins (s t : State) (w : Writer) (frame : PlaintextControlFrameV1) : Prop where
  call : t.call w = some { frame := frame }
  others : ∀ w', w' ≠ w → t.call w' = s.call w'
  mine : s.call w = none
  wire : t.wire = s.wire
  receiver : t.receiver = s.receiver
  begun : t.begun = s.begun ++ [frame]
  consumed : t.consumed = s.consumed
  returned : t.returned = s.returned
  asked : t.asked = s.asked

/-- What the threads leave alone between their calls of `send`. -/
def State.bytes (s : State) :
    List UInt8 × Receiving × List PlaintextControlFrameV1 × List UInt8 × List (List UInt8) ×
      List Int :=
  (s.wire, s.receiver, s.begun, s.consumed, s.returned, s.asked)

theorem Same.of_bytes (h : t.bytes = s.bytes)
    (hcall : ∀ w, t.call w = s.call w ∨ t.call w = none ∧ s.restOf w = []) : Same s t := by
  simp only [State.bytes, Prod.mk.injEq] at h
  obtain ⟨h1, h2, h3, h4, h5, h6⟩ := h
  exact ⟨hcall, h1, h2, h3, h4, h5, h6⟩

theorem Same.starting (h : t.bytes = s.bytes) (hothers : (t.loop, t.stop) = (s.loop, s.stop))
    (hrest : s.restOf .starting = []) (hcall : t.call .starting = none) : Same s t := by
  obtain ⟨hl, hs⟩ := Prod.mk.inj hothers
  refine .of_bytes h fun w => ?_
  cases w with
  | starting => exact Or.inr ⟨hcall, hrest⟩
  | controlLoop => exact Or.inl (by rw [State.call, State.call, hl])
  | stop => exact Or.inl (by rw [State.call, State.call, hs])

theorem Same.loop (h : t.bytes = s.bytes)
    (hothers : (t.starting, t.stop) = (s.starting, s.stop)) (hrest : s.restOf .controlLoop = [])
    (hcall : t.call .controlLoop = none) : Same s t := by
  obtain ⟨hst, hs⟩ := Prod.mk.inj hothers
  refine .of_bytes h fun w => ?_
  cases w with
  | starting => exact Or.inl (by rw [State.call, State.call, hst])
  | controlLoop => exact Or.inr ⟨hcall, hrest⟩
  | stop => exact Or.inl (by rw [State.call, State.call, hs])

theorem Same.stop (h : t.bytes = s.bytes)
    (hothers : (t.starting, t.loop) = (s.starting, s.loop)) (hrest : s.restOf .stop = [])
    (hcall : t.call .stop = none) : Same s t := by
  obtain ⟨hst, hl⟩ := Prod.mk.inj hothers
  refine .of_bytes h fun w => ?_
  cases w with
  | starting => exact Or.inl (by rw [State.call, State.call, hst])
  | controlLoop => exact Or.inl (by rw [State.call, State.call, hl])
  | stop => exact Or.inr ⟨hcall, hrest⟩

/-- **What the starting thread does to the bytes** between its calls of `send`. -/
theorem starting_cases {a : Label} (h : Exclusive s) (ha : a.actor = .starting)
    (hn : s.writes a = some t) : Same s t ∨ ∃ frame, Begins s t .starting frame := by
  cases a with
  | beginGreeting frame =>
    simp only [State.writes, Option.ite_none_right_eq_some, Option.some.injEq] at hn
    obtain ⟨hs, rfl⟩ := hn
    refine Or.inr ⟨frame, rfl, ?_, by rw [State.call, hs], rfl, rfl, rfl, rfl, rfl, rfl⟩
    intro w hw
    cases w with
    | starting => exact absurd rfl hw
    | controlLoop | stop => rfl
  | greetingSent =>
    simp only [State.writes] at hn
    split at hn
    · rename_i hs
      have hrest : s.restOf .starting = [] := restOf_starting hs
      split at hn
      · obtain rfl := Option.some.inj hn
        exact Or.inl (.starting rfl rfl hrest rfl)
      · obtain rfl := Option.some.inj hn
        exact Or.inl (.starting rfl rfl hrest rfl)
    · cases hn
  | startFails | setConnected =>
    simp only [State.writes, Option.ite_none_right_eq_some, Option.some.injEq] at hn
    obtain ⟨hs, rfl⟩ := hn
    exact Or.inl (.starting rfl rfl (restOf_starting hs) rfl)
  | checkStop =>
    simp only [State.writes, Option.ite_none_right_eq_some] at hn
    obtain ⟨hs, hn⟩ := hn
    have hrest : s.restOf .starting = [] := restOf_starting hs
    split at hn
    · obtain rfl := Option.some.inj hn
      exact Or.inl (.starting rfl rfl hrest rfl)
    · obtain rfl := Option.some.inj hn
      exact Or.inl (.starting rfl rfl hrest rfl)
  | startLoop =>
    simp only [State.writes, Option.ite_none_right_eq_some] at hn
    obtain ⟨hs, hn⟩ := hn
    have hrest : s.restOf .starting = [] := restOf_starting hs
    split at hn
    · obtain rfl := Option.some.inj hn
      exact Or.inl (.starting rfl rfl hrest rfl)
    · -- there was no control loop yet
      have hnone : s.loop = .none := by
        by_contra hl
        cases hs.symm.trans (h.thread hl)
      obtain rfl := Option.some.inj hn
      refine Or.inl (.of_bytes rfl fun w => ?_)
      cases w with
      | starting => exact Or.inr ⟨rfl, hrest⟩
      | controlLoop => exact Or.inl (by rw [State.call, State.call, hnone])
      | stop => exact Or.inl rfl
  | loopTest | loopFrame | loopNothing | loopLock | loopUnlock | loopSignals | loopReads
    | stopExchange | stopConnected | stopLock | stopSocket | stopUnlock | close | disconnects
    | send | beginReceive | recv => cases ha

theorem loop_cases {a : Label} (ha : a.actor = .controlLoop) (hn : s.writes a = some t) :
    Same s t ∨ ∃ frame, Begins s t .controlLoop frame := by
  cases a with
  | loopTest =>
    simp only [State.writes, Option.ite_none_right_eq_some, Option.some.injEq] at hn
    obtain ⟨hl, rfl⟩ := hn
    refine Or.inl (.loop rfl rfl (restOf_loop hl) ?_)
    rw [State.call]
    cases !s.stopRequested && s.connected <;> rfl
  | loopFrame | loopNothing | loopSignals =>
    simp only [State.writes, Option.ite_none_right_eq_some, Option.some.injEq] at hn
    obtain ⟨hl, rfl⟩ := hn
    exact Or.inl (.loop rfl rfl (restOf_loop hl) rfl)
  | loopLock =>
    simp only [State.writes] at hn
    split at hn
    · rename_i frame hl _
      obtain rfl := Option.some.inj hn
      refine Or.inr ⟨frame, rfl, ?_, by rw [State.call, hl], rfl, rfl, rfl, rfl, rfl, rfl⟩
      intro w hw
      cases w with
      | controlLoop => exact absurd rfl hw
      | starting | stop => rfl
    · cases hn
  | loopUnlock =>
    simp only [State.writes] at hn
    split at hn
    · rename_i ok hl
      obtain rfl := Option.some.inj hn
      refine Or.inl (.loop rfl rfl (restOf_loop hl) ?_)
      cases ok <;> rfl
    · cases hn
  | loopReads goesOn =>
    simp only [State.writes, Option.ite_none_right_eq_some] at hn
    obtain ⟨hl, hn⟩ := hn
    have hrest : s.restOf .controlLoop = [] := restOf_loop hl
    split at hn
    · obtain rfl := Option.some.inj hn
      exact Or.inl (.loop rfl rfl hrest rfl)
    · obtain rfl := Option.some.inj hn
      exact Or.inl (.loop rfl rfl hrest rfl)
  | beginGreeting | greetingSent | startFails | checkStop | setConnected | startLoop
    | stopExchange | stopConnected | stopLock | stopSocket | stopUnlock | close | disconnects
    | send | beginReceive | recv => cases ha

theorem stop_cases {a : Label} (ha : a.actor = .stop) (hn : s.writes a = some t) :
    Same s t ∨ ∃ frame, Begins s t .stop frame := by
  cases a with
  | stopExchange =>
    simp only [State.writes, Option.ite_none_right_eq_some, Option.some.injEq] at hn
    obtain ⟨hs, rfl⟩ := hn
    exact Or.inl (.stop rfl rfl (restOf_stop hs) rfl)
  | stopConnected frame =>
    simp only [State.writes, Option.ite_none_right_eq_some, Option.some.injEq] at hn
    obtain ⟨hs, rfl⟩ := hn
    refine Or.inl (.stop rfl rfl (restOf_stop hs) ?_)
    rw [State.call]
    cases s.connected <;> rfl
  | stopLock =>
    simp only [State.writes] at hn
    split at hn
    · rename_i hs _
      obtain rfl := Option.some.inj hn
      exact Or.inl (.stop rfl rfl (restOf_stop hs) rfl)
    · cases hn
  | stopSocket =>
    simp only [State.writes] at hn
    split at hn
    · rename_i frame hs
      split at hn
      · obtain rfl := Option.some.inj hn
        refine Or.inr ⟨frame, rfl, ?_, by rw [State.call, hs], rfl, rfl, rfl, rfl, rfl, rfl⟩
        intro w hw
        cases w with
        | stop => exact absurd rfl hw
        | starting | controlLoop => rfl
      · obtain rfl := Option.some.inj hn
        exact Or.inl (.stop rfl rfl (restOf_stop hs) rfl)
    · cases hn
  | stopUnlock =>
    simp only [State.writes] at hn
    split at hn
    · rename_i hs
      obtain rfl := Option.some.inj hn
      exact Or.inl (.stop rfl rfl (restOf_stop hs) rfl)
    · cases hn
  | close =>
    simp only [State.writes, Option.ite_none_right_eq_some, Option.some.injEq] at hn
    obtain ⟨_, rfl⟩ := hn
    exact Or.inl (.of_bytes rfl fun w => Or.inl (by cases w <;> rfl))
  | disconnects =>
    obtain rfl := Option.some.inj hn
    exact Or.inl (.of_bytes rfl fun w => Or.inl (by cases w <;> rfl))
  | beginGreeting | greetingSent | startFails | checkStop | setConnected | startLoop
    | loopTest | loopFrame | loopNothing | loopLock | loopUnlock | loopSignals | loopReads
    | send | beginReceive | recv => cases ha

/-- **What the threads do to the bytes** between their calls of `send`. -/
theorem writes_cases {a : Label} (h : Exclusive s) (hn : s.writes a = some t) :
    Same s t ∨ ∃ w frame, Begins s t w frame := by
  cases ha : a.actor with
  | starting => exact (starting_cases h ha hn).imp_right fun hb => ⟨_, hb⟩
  | controlLoop => exact (loop_cases ha hn).imp_right fun hb => ⟨_, hb⟩
  | stop => exact (stop_cases ha hn).imp_right fun hb => ⟨_, hb⟩
  | socket =>
    cases a with
    | send | beginReceive | recv => cases hn
    | beginGreeting | greetingSent | startFails | checkStop | setConnected | startLoop
      | loopTest | loopFrame | loopNothing | loopLock | loopUnlock | loopSignals | loopReads
      | stopExchange | stopConnected | stopLock | stopSocket | stopUnlock | close
      | disconnects => cases ha

/-! ### One call -/

/-- A call of `send` by the thread `w` returned `result`. -/
structure Sent (s t : State) (w : Writer) (result : Int) (frame : PlaintextControlFrameV1)
    (sent : Int) (left : sent < 32) : Prop where
  mine : s.call w = some ⟨frame, .calling sent left⟩
  le : result ≤ 32 - sent
  call : t.call w = some ⟨frame, .answer result (.calling sent left)⟩
  others : ∀ w', w' ≠ w → t.call w' = s.call w'
  wire : t.wire = if result ≤ 0 then s.wire else handOver frame.toBytes sent result s.wire
  receiver : t.receiver = s.receiver
  begun : t.begun = s.begun
  consumed : t.consumed = s.consumed
  returned : t.returned = s.returned
  asked : t.asked = s.asked ++ [32 - sent]

theorem call_setCall (s : State) (call : SendAll) (w w' : Writer) :
    (s.setCall call w).call w' = if w' = w then some call else s.call w' := by
  cases w <;> cases w' <;> rfl

theorem bytes_setCall (s : State) (call : SendAll) (w : Writer) :
    (s.setCall call w).bytes = s.bytes := by
  cases w <;> rfl

/-- **What a call of `send` does.** -/
theorem send_cases {w : Writer} {result : Int} (hn : s.send w result = some t) :
    ∃ frame sent left, Sent s t w result frame sent left := by
  rw [State.send] at hn
  split at hn
  · rename_i frame sent left hw
    split at hn
    · rename_i hle
      obtain rfl := Option.some.inj hn
      have hcall := call_setCall s ⟨frame, .answer result (.calling sent left)⟩ w
      have hbytes := bytes_setCall s ⟨frame, .answer result (.calling sent left)⟩ w
      simp only [State.bytes, Prod.mk.injEq] at hbytes
      obtain ⟨hwire, hreceiver, hbegun, hconsumed, hreturned, hasked⟩ := hbytes
      refine ⟨frame, sent, left, hw, hle, (hcall w).trans (if_pos rfl), ?_, ?_, hreceiver, hbegun,
        hconsumed, hreturned, ?_⟩
      · exact fun w' hne => (hcall w').trans (if_neg hne)
      · dsimp only
        rw [hwire]
      · dsimp only
        rw [hasked]
    · cases hn
  · cases hn

theorem exclusive_send {w : Writer} {result : Int} (h : Exclusive s)
    (hn : s.send w result = some t) : Exclusive t := by
  rw [State.send] at hn
  split at hn
  · rename_i hw
    split at hn
    · obtain rfl := Option.some.inj hn
      have hcall := h.setCall hw
      exact ⟨(hcall _).early, (hcall _).thread, (hcall _).loop, (hcall _).stop⟩
    · cases hn
  · cases hn

/-- **What a call of `recv` does**: it fails, or stores bytes, which may complete the
frame. -/
theorem recv_cases {result : Int} (hn : s.recv result = some t) :
    ∃ bytes received left, s.receiver = .receiving bytes received left ∧
      result ≤ 32 - received ∧ result ≤ s.wire.length ∧
      (result ≤ 0 ∧ t = { s with asked := s.asked ++ [32 - received], receiver := .failed } ∨
        0 < result ∧ ∃ receiver returned,
          t = { s with
            asked := s.asked ++ [32 - received]
            receiver := receiver
            wire := s.wire.drop result.toNat
            consumed := s.consumed ++ s.wire.take result.toNat
            returned := s.returned ++ returned } ∧
          let bytes' := (store received result (bytes, s.wire)).1
          ((∃ left', receiver = .receiving bytes' (received + result) left' ∧ returned = []) ∨
            received + result = 32 ∧ receiver = .idle ∧ returned = [bytes'])) := by
  rw [State.recv] at hn
  split at hn
  · rename_i bytes received left hr
    split at hn
    · rename_i hle
      refine ⟨bytes, received, left, hr, hle.1, hle.2, ?_⟩
      by_cases hneg : result ≤ 0
      · simp only [Transfer.answer, if_pos hneg] at hn
        exact Or.inl ⟨hneg, (Option.some.inj hn).symm⟩
      · refine Or.inr ⟨Int.not_le.mp hneg, ?_⟩
        by_cases hlt : received + result < 32
        · simp only [Transfer.answer, Transfer.test, if_neg hneg, dif_pos hlt] at hn
          exact ⟨_, [], by rw [List.append_nil]; exact (Option.some.inj hn).symm,
            Or.inl ⟨hlt, rfl, rfl⟩⟩
        · simp only [Transfer.answer, Transfer.test, if_neg hneg, dif_neg hlt] at hn
          exact ⟨_, _, (Option.some.inj hn).symm, Or.inr ⟨by omega, rfl, rfl⟩⟩
    · cases hn
  · cases hn

/-- A call of `send` is a round of `sendAll`. -/
theorem Sent.round {w : Writer} {result sent : Int} {frame : PlaintextControlFrameV1}
    {left : sent < 32} (h : Sent s t w result frame sent left) (send : Nat → Int)
    (hresult : send 0 = result) :
    moveAll (handOver frame.toBytes) send (.calling sent left) s.wire =
      (moveAll (handOver frame.toBytes) (fun i => send (i + 1))
        (.answer result (.calling sent left)) t.wire).behind (32 - sent) := by
  rw [moveAll, hresult, h.wire]

/-- A `ReceiveAll` whose loop is at `transfer`. -/
def Receiving.ofTransfer (bytes : List UInt8) : Transfer 32 → Receiving
  | .calling received left => .receiving bytes received left
  | .returned ok => if ok then .idle else .failed

/-- A call of `recv` is a round of `receiveAll`. -/
theorem recv_round {result received : Int} {left : received < 32} {bytes : List UInt8}
    (hn : s.recv result = some t) (hr : s.receiver = .receiving bytes received left)
    (recv : Nat → Int) (hresult : recv 0 = result) :
    ∃ bytes',
      moveAll store recv (.calling received left) (bytes, s.wire) =
        (moveAll store (fun i => recv (i + 1)) (.answer result (.calling received left))
          (bytes', t.wire)).behind (32 - received) ∧
      t.receiver = .ofTransfer bytes' (.answer result (.calling received left)) ∧
      t.returned = s.returned ++ (if .answer result (.calling received left) =
        Transfer.returned true then [bytes'] else []) := by
  obtain ⟨_, _, _, hr', _, _, hcases⟩ := recv_cases hn
  cases hr.symm.trans hr'
  obtain ⟨hneg, rfl⟩ | ⟨hpos, receiver, returned, rfl, hcases⟩ := hcases
  · refine ⟨bytes, ?_, ?_, ?_⟩
    · rw [moveAll, hresult, if_pos hneg]
    · rw [Transfer.answer, if_pos hneg]
      rfl
    · rw [Transfer.answer, if_pos hneg, if_neg (by decide), List.append_nil]
  · have hneg := Int.not_le.mpr hpos
    refine ⟨(store received result (bytes, s.wire)).1, ?_, ?_⟩
    · rw [moveAll, hresult, if_neg hneg]
      rfl
    · obtain ⟨left', rfl, rfl⟩ | ⟨hfull, rfl, rfl⟩ := hcases
      · rw [Transfer.answer, if_neg hneg, Transfer.test, dif_pos left',
          if_neg (fun he => by cases he)]
        exact ⟨rfl, rfl⟩
      · rw [Transfer.answer, if_neg hneg, Transfer.test, dif_neg (by omega), if_pos rfl]
        exact ⟨rfl, rfl⟩

/-! ### The refinement -/

/-- Only the thread in `SendAll` has bytes to hand over. -/
theorem pending_of_alone {w : Writer} (h : ∀ w', w' ≠ w → s.call w' = none) :
    s.pending = s.restOf w := by
  have hrest : ∀ w', w' ≠ w → s.restOf w' = [] := fun w' hw =>
    restOf_none (h w' hw)
  cases w with
  | starting =>
    rw [State.pending, hrest .controlLoop (by decide), hrest .stop (by decide), List.append_nil,
      List.append_nil]
  | controlLoop =>
    rw [State.pending, hrest .starting (by decide), hrest .stop (by decide), List.append_nil,
      List.nil_append]
  | stop =>
    rw [State.pending, hrest .starting (by decide), hrest .controlLoop (by decide),
      List.nil_append, List.nil_append]

theorem Exclusive.others (h : Exclusive s) {w : Writer} {call : SendAll}
    (hw : s.call w = some call) : ∀ w', w' ≠ w → s.call w' = none := by
  intro w' hne
  cases hw' : s.call w' with
  | none => rfl
  | some call' => exact absurd (h.alone hw' hw) hne

theorem Same.pending (h : Same s t) : t.pending = s.pending := by
  have hrest : ∀ w, t.restOf w = s.restOf w := by
    intro w
    rcases h.call w with hw | ⟨hw, hnil⟩
    · rw [State.restOf, State.restOf, hw]
    · rw [hnil, restOf_none hw]
  rw [State.pending, State.pending, hrest, hrest, hrest]

/-- The thread was alone, so nothing was waiting; now the frame is. -/
theorem Begins.pending {w : Writer} {frame : PlaintextControlFrameV1} (h : Begins s t w frame)
    (ht : Exclusive t) : s.pending = [] ∧ t.pending = frame.toBytes := by
  have hothers := ht.others h.call
  constructor
  · rw [pending_of_alone fun w' hw => (h.others w' hw).symm.trans (hothers w' hw),
      restOf_none h.mine]
  · rw [pending_of_alone hothers, restOf_some h.call]
    rfl

theorem rest_test (frame : PlaintextControlFrameV1) (sent : Int) :
    SendAll.rest ⟨frame, .test 32 sent⟩ = frame.toBytes.drop sent.toNat := by
  rw [Transfer.test]
  split
  · rfl
  · rw [List.drop_eq_nil_of_le (by rw [PlaintextControlFrameV1.toBytes_length]; omega)]
    rfl

theorem Sent.pending {w : Writer} {result sent : Int} {frame : PlaintextControlFrameV1}
    {left : sent < 32} (h : Sent s t w result frame sent left) (hs : Exclusive s)
    (h0 : 0 ≤ sent) (hpos : 0 < result) :
    s.pending = frame.toBytes.drop sent.toNat ∧ t.pending = s.pending.drop result.toNat := by
  have hothers := hs.others h.mine
  have hbefore : s.pending = frame.toBytes.drop sent.toNat := by
    rw [pending_of_alone hothers, restOf_some h.mine]
    rfl
  refine ⟨hbefore, ?_⟩
  rw [pending_of_alone fun w' hw => (h.others w' hw).trans (hothers w' hw), restOf_some h.call,
    Transfer.answer, if_neg (Int.not_le.mpr hpos), rest_test, hbefore, List.drop_drop,
    Int.toNat_add h0 (Int.le_of_lt hpos)]

/-- What has arrived of the frame that is being received. -/
def Receiving.Has : Receiving → List UInt8 → Prop
  | .idle, part => part = []
  | .receiving bytes received _, part =>
    (part.length : Int) = received ∧ part <+: bytes ∧ bytes.length = 32
  | .failed, part => part.length < 32

/-- **The direction as a stream of frames.** -/
structure Refines (s : State) (c : ControlStream) : Prop where
  sending : s.pending = c.sending
  wire : s.wire = c.wire
  reading : s.receiver.Has c.reading
  broken : c.broken = false
  begun : s.begun = c.begun
  taken : s.returned = c.taken.map PlaintextControlFrameV1.toBytes
  consumed : s.consumed = s.returned.flatten ++ c.reading

theorem refines_init : Refines system.init {} :=
  ⟨rfl, rfl, rfl, rfl, rfl, rfl, rfl⟩

variable {c : ControlStream}

theorem Refines.same (h : Refines s c) (hsame : Same s t) : Refines t c where
  sending := hsame.pending.trans h.sending
  wire := hsame.wire.trans h.wire
  reading := hsame.receiver ▸ h.reading
  broken := h.broken
  begun := hsame.begun.trans h.begun
  taken := hsame.returned.trans h.taken
  consumed := by rw [hsame.consumed, hsame.returned, h.consumed]

/-- A `SendAll` begins where a frame does. -/
theorem Refines.begins {w : Writer} {frame : PlaintextControlFrameV1} (h : Refines s c)
    (hb : Begins s t w frame) (ht : Exclusive t) :
    ∃ c', c.begin controlCodec frame = some c' ∧ Refines t c' := by
  obtain ⟨hnil, hframe⟩ := hb.pending ht
  refine ⟨_, if_pos ⟨h.sending.symm.trans hnil, h.broken⟩, ?_⟩
  exact {
    sending := hframe
    wire := hb.wire.trans h.wire
    reading := hb.receiver ▸ h.reading
    broken := h.broken
    begun := by rw [hb.begun, h.begun]
    taken := hb.returned.trans h.taken
    consumed := by rw [hb.consumed, hb.returned, h.consumed] }

/-- A call of `send` hands over the next bytes of the frame. -/
theorem Refines.sent {w : Writer} {result sent : Int} {frame : PlaintextControlFrameV1}
    {left : sent < 32} (h : Refines s c) (hsent : Sent s t w result frame sent left)
    (hs : Exclusive s) (h0 : 0 ≤ sent) (hpos : 0 < result) :
    ∃ c', c.push result.toNat = some c' ∧ Refines t c' := by
  obtain ⟨hbefore, hafter⟩ := hsent.pending hs h0 hpos
  have hle := hsent.le
  have hguard : 0 < result.toNat ∧ result.toNat ≤ c.sending.length := by
    rw [← h.sending, hbefore, List.length_drop, PlaintextControlFrameV1.toBytes_length]
    omega
  refine ⟨_, if_pos hguard, ?_⟩
  exact {
    sending := by rw [hafter, h.sending]
    wire := by
      rw [hsent.wire, if_neg (Int.not_le.mpr hpos), handOver, ← hbefore, h.sending, h.wire]
    reading := hsent.receiver ▸ h.reading
    broken := h.broken
    begun := hsent.begun.trans h.begun
    taken := hsent.returned.trans h.taken
    consumed := by rw [hsent.consumed, hsent.returned, h.consumed] }

/-- A call of `recv` stores its bytes behind those that have arrived. -/
theorem store_has {bytes part wire : List UInt8} {received result : Int}
    (hpart : (part.length : Int) = received) (hpre : part <+: bytes) (hlen : bytes.length = 32)
    (hpos : 0 < result) (hle : result ≤ 32 - received) (hwire : result ≤ wire.length) :
    let part' := part ++ wire.take result.toNat
    let bytes' := (store received result (bytes, wire)).1
    (part'.length : Int) = received + result ∧ part' <+: bytes' ∧ bytes'.length = 32 := by
  have hreceived : received.toNat = part.length := by omega
  have htake : bytes.take received.toNat = part := by
    rw [hreceived]
    exact (List.prefix_iff_eq_take.mp hpre).symm
  refine ⟨?_, ?_, ?_⟩
  · rw [List.length_append, List.length_take]
    omega
  · rw [store, htake]
    exact List.prefix_append _ _
  · rw [store, htake, List.length_append, List.length_append, List.length_take, List.length_drop]
    omega

/-- The stream behind a call of `recv` that returned `n`. -/
def pulled (c : ControlStream) (n : Nat) : ControlStream :=
  { c with wire := c.wire.drop n, reading := c.reading ++ c.wire.take n }

/-- The frame goes on. -/
theorem Refines.goesOn (h : Refines s c) (n : Nat) (asked : List Int) {receiver : Receiving}
    (hread : receiver.Has (pulled c n).reading) :
    Refines { s with
      asked := asked
      receiver := receiver
      wire := s.wire.drop n
      consumed := s.consumed ++ s.wire.take n } (pulled c n) where
  sending := h.sending
  wire := congrArg (List.drop n) h.wire
  reading := hread
  broken := h.broken
  begun := h.begun
  taken := h.taken
  consumed := by
    show s.consumed ++ s.wire.take n = s.returned.flatten ++ (c.reading ++ c.wire.take n)
    rw [h.consumed, h.wire, List.append_assoc]

/-- The frame is complete, and is taken. -/
theorem Refines.completed (h : Refines s c) {n : Nat} (asked : List Int)
    (hf : FramedStream.Framed controlCodec (pulled c n))
    (hfull : (pulled c n).reading.length = 32) :
    ∃ c', FramedStream.Framed controlCodec c' ∧ Refines { s with
      asked := asked
      receiver := .idle
      wire := s.wire.drop n
      consumed := s.consumed ++ s.wire.take n
      returned := s.returned ++ [(pulled c n).reading] } c' := by
  have htake : (pulled c n).take controlCodec = some (_, _) := if_pos hfull
  refine ⟨_, hf.take htake, ?_⟩
  exact {
    sending := h.sending
    wire := congrArg (List.drop n) h.wire
    reading := rfl
    broken := h.broken
    begun := h.begun
    taken := by
      have hbytes : PlaintextControlFrameV1.toBytes _ = (pulled c n).reading :=
        hf.encode_take htake
      show s.returned ++ [(pulled c n).reading] = (c.taken ++ [_]).map _
      rw [List.map_append, ← h.taken, List.map_singleton, hbytes]
    consumed := by
      show s.consumed ++ s.wire.take n =
        (s.returned ++ [c.reading ++ c.wire.take n]).flatten ++ []
      rw [h.consumed, h.wire, List.append_nil, List.flatten_append, List.flatten_singleton,
        List.append_assoc] }

/-- A call of `recv` takes the next bytes of the stream, and the last of them a frame. -/
theorem Refines.received {result : Int} (h : Refines s c)
    (hf : FramedStream.Framed controlCodec c) (hn : s.recv result = some t) :
    ∃ c', FramedStream.Framed controlCodec c' ∧ Refines t c' := by
  obtain ⟨bytes, received, left, hr, hle, hwire, hcases⟩ := recv_cases hn
  have hread := h.reading
  rw [hr] at hread
  obtain ⟨hpart, hpre, hlen⟩ := hread
  obtain ⟨_, rfl⟩ | ⟨hpos, receiver, returned, rfl, hcases⟩ := hcases
  · have hfailed : c.reading.length < 32 := by omega
    exact ⟨c, hf, h.sending, h.wire, hfailed, h.broken, h.begun, h.taken, h.consumed⟩
  · have hstored := store_has hpart hpre hlen hpos hle hwire
    rw [h.wire] at hstored hcases hwire
    obtain ⟨hpart', hpre', hlen'⟩ := hstored
    have hsize : c.reading.length + result.toNat ≤ 32 := by omega
    have hpull : c.pull controlCodec result.toNat = some (pulled c result.toNat) :=
      if_pos ⟨by omega, by omega, hsize⟩
    obtain ⟨left', rfl, rfl⟩ | ⟨hfull, rfl, rfl⟩ := hcases
    · rw [List.append_nil]
      exact ⟨_, hf.pull hpull, h.goesOn _ _ ⟨hpart', hpre', hlen'⟩⟩
    · have hfull' : (c.reading ++ c.wire.take result.toNat).length = 32 := by omega
      rw [← hpre'.eq_of_length (hfull'.trans hlen'.symm)]
      exact h.completed _ (hf.pull hpull) hfull'

/-! ### Whole runs -/

/-- **The invariant** of the runs in which every `send` hands something over. -/
structure Inv (s : State) : Prop where
  exclusive : Exclusive s
  sent : ∀ w frame sent left, s.call w = some ⟨frame, .calling sent left⟩ → 0 ≤ sent
  asked : ∀ n ∈ s.asked, 0 < n
  refines : ∃ c, FramedStream.Framed controlCodec c ∧ Refines s c

theorem inv_init : Inv system.init where
  exclusive := exclusive_init
  sent w _ _ _ hw := by cases w <;> cases hw
  asked := by simp [system]
  refines := ⟨{}, FramedStream.framed_new, refines_init⟩

theorem Inv.writes {a : Label} (h : Inv s) (hn : s.writes a = some t) : Inv t := by
  have ht := exclusive_writes h.exclusive hn
  obtain ⟨c, hf, hc⟩ := h.refines
  rcases writes_cases h.exclusive hn with hsame | ⟨w, frame, hb⟩
  · refine ⟨ht, fun w frame sent left hw => ?_, hsame.asked ▸ h.asked, c, hf, hc.same hsame⟩
    rcases hsame.call w with hsw | ⟨hnone, _⟩
    · exact h.sent w frame sent left (hsw.symm.trans hw)
    · cases hnone.symm.trans hw
  · refine ⟨ht, fun w' frame' sent left hw' => ?_, hb.asked ▸ h.asked, ?_⟩
    · obtain rfl := ht.alone hw' hb.call
      cases hw'.symm.trans hb.call
      exact Int.le_refl 0
    · obtain ⟨c', hbegin, hc'⟩ := hc.begins hb ht
      exact ⟨c', hf.begin hbegin, hc'⟩

theorem Inv.asked_snoc (h : Inv s) {n : Int} (hn : 0 < n) : ∀ m ∈ s.asked ++ [n], 0 < m := by
  intro m hm
  rcases List.mem_append.mp hm with hm | hm
  · exact h.asked m hm
  · rwa [List.mem_singleton.mp hm]

theorem Inv.send {w : Writer} {result : Int} (h : Inv s) (hpos : 0 < result)
    (hn : s.send w result = some t) : Inv t := by
  have ht := exclusive_send h.exclusive hn
  obtain ⟨frame, sent, left, hsent⟩ := send_cases hn
  have h0 := h.sent w frame sent left hsent.mine
  obtain ⟨c, hf, hc⟩ := h.refines
  obtain ⟨c', hpush, hc'⟩ := hc.sent hsent h.exclusive h0 hpos
  refine ⟨ht, fun w' frame' sent' left' hw' => ?_, ?_, c', hf.push hpush, hc'⟩
  · obtain rfl := ht.alone hw' hsent.call
    have hgoes := Option.some.inj (hw'.symm.trans hsent.call)
    rw [Transfer.answer, if_neg (Int.not_le.mpr hpos), Transfer.test] at hgoes
    split at hgoes
    · obtain ⟨rfl, hmoved⟩ := SendAll.mk.inj hgoes
      have := Transfer.calling.inj hmoved
      omega
    · cases (SendAll.mk.inj hgoes).2
  · rw [hsent.asked]
    exact h.asked_snoc (by omega)

/-- The receiving end leaves the sending threads alone. -/
theorem Inv.receives {receiver : Receiving} {wire consumed : List UInt8}
    {returned : List (List UInt8)} {asked : List Int} (h : Inv s) (hasked : ∀ n ∈ asked, 0 < n)
    (hrefines : ∃ c, FramedStream.Framed controlCodec c ∧ Refines { s with
      receiver := receiver, wire := wire, consumed := consumed, returned := returned
      asked := asked } c) :
    Inv { s with
      receiver := receiver, wire := wire, consumed := consumed, returned := returned
      asked := asked } where
  exclusive :=
    ⟨h.exclusive.early, h.exclusive.thread, h.exclusive.loop, h.exclusive.stop⟩
  sent w := by
    cases w with
    | starting => exact h.sent .starting
    | controlLoop => exact h.sent .controlLoop
    | stop => exact h.sent .stop
  asked := hasked
  refines := hrefines

theorem Inv.beginReceive (h : Inv s) (hn : s.next .beginReceive = some t) : Inv t := by
  simp only [State.next, Option.ite_none_right_eq_some, Option.some.injEq] at hn
  obtain ⟨hidle, rfl⟩ := hn
  obtain ⟨c, hf, hc⟩ := h.refines
  have hread : s.receiver.Has c.reading := hc.reading
  rw [hidle] at hread
  refine h.receives h.asked ⟨c, hf, hc.sending, hc.wire, ?_, hc.broken, hc.begun, hc.taken,
    hc.consumed⟩
  show (c.reading.length : Int) = 0 ∧ c.reading <+: List.replicate 32 0 ∧ _
  rw [show c.reading = [] from hread]
  exact ⟨rfl, List.nil_prefix, rfl⟩

theorem Inv.recv {result : Int} (h : Inv s) (hn : s.recv result = some t) : Inv t := by
  obtain ⟨c, hf, hc⟩ := h.refines
  have hrefines := hc.received hf hn
  obtain ⟨bytes, received, left, _, _, _, hcases⟩ := recv_cases hn
  have hasked := h.asked_snoc (show 0 < 32 - received by omega)
  obtain ⟨_, rfl⟩ | ⟨_, receiver, returned, rfl, _⟩ := hcases
  · exact h.receives hasked hrefines
  · exact h.receives hasked hrefines

theorem inv_step {a : Label} (h : Inv s) (hok : Sends s a) (hn : system.next s a = some t) :
    Inv t := by
  replace hn : s.next a = some t := hn
  rw [State.next.eq_def] at hn
  split at hn
  · exact h.send hok hn
  · exact h.beginReceive hn
  · exact h.recv hn
  · exact h.writes hn

theorem inv_run {l : List Label} (h : system.RunWith Sends l s) : Inv s :=
  System.RunWith.invariant (P := fun _ s => Inv s) inv_init
    (fun _ _ _ _ _ hI hok hn => inv_step hI hok hn) h

theorem Receiving.Has.lt {r : Receiving} {part : List UInt8} (h : r.Has part) :
    part.length < 32 := by
  cases r with
  | idle =>
    rw [show part = [] from h]
    decide
  | receiving bytes received left =>
    have hpart : (part.length : Int) = received := h.1
    omega
  | failed => exact h

/-- Less than a frame is the end of a sequence of frames only when there is none. -/
theorem frames_nil {frames : List PlaintextControlFrameV1}
    (h : (frames.flatMap PlaintextControlFrameV1.toBytes).length < 32) : frames = [] := by
  cases frames with
  | nil => rfl
  | cons frame frames =>
    rw [List.flatMap_cons, List.length_append, PlaintextControlFrameV1.toBytes_length] at h
    omega

theorem pending_of_done
    (h : ∀ w frame sent left, s.call w ≠ some ⟨frame, .calling sent left⟩) : s.pending = [] := by
  have hrest : ∀ w, s.restOf w = [] := by
    intro w
    cases hw : s.call w with
    | none => exact restOf_none hw
    | some call =>
      obtain ⟨frame, transfer⟩ := call
      rw [restOf_some hw]
      cases transfer with
      | calling sent left => exact absurd hw (h w frame sent left)
      | returned ok => rfl
  rw [State.pending, hrest, hrest, hrest]
  rfl

theorem Inv.exact (h : Inv s) : Exact s := by
  obtain ⟨c, hf, hc⟩ := h.refines
  obtain ⟨frames, hbegun, _, hrest⟩ := hf.rest
  have hbytes := hrest hc.broken
  refine ⟨fun _ _ _ _ hw hw' => h.exclusive.alone hw hw', ?_, ⟨c.reading, hc.consumed,
    hc.reading.lt, fun hidle => ?_, fun bytes received left hr => ?_⟩, fun hdone hwire => ?_,
    h.asked⟩
  · rw [hc.taken, hc.begun, hbegun, List.map_append]
    exact List.prefix_append _ _
  · have hread := hc.reading
    rwa [hidle] at hread
  · have hread := hc.reading
    rw [hr] at hread
    exact hread.1
  · -- what is left of the frames is a part of one
    rw [← hc.sending, pending_of_done hdone, ← hc.wire, hwire, List.append_nil,
      List.append_nil] at hbytes
    have hnil : frames = [] := frames_nil (hbytes ▸ hc.reading.lt)
    rw [hnil] at hbytes hbegun
    constructor
    · rw [hc.taken, hc.begun, hbegun, List.append_nil]
    · rw [hc.consumed, hbytes]
      exact List.append_nil _

/-- **Framing is independent of the segmentation.** -/
theorem framing_exact {l : List Label} {s : State} (h : system.RunWith Sends l s) :
    Exact s ∧
      (∀ send data length wire,
        let m := sendAll send data length wire
        (∀ n ∈ m.asked, 0 < n) ∧ m.asked.length ≤ length.toNat ∧
          (m.ok = false ↔ FailsFrom send 0 length)) ∧
      ∀ recv bytes length wire,
        let m := receiveAll recv bytes length wire
        (∀ n ∈ m.asked, 0 < n) ∧ m.asked.length ≤ length.toNat ∧
          (m.ok = false ↔ FailsFrom recv 0 length) :=
  ⟨(inv_run h).exact, fun send data length wire => moveAll_spec (handOver data) send length wire,
    fun recv bytes length wire => moveAll_spec store recv length (bytes, wire)⟩

instance (s : State) : (a : Label) → Decidable (Sends s a)
  | .send _ result => inferInstanceAs (Decidable (0 < result))
  | .beginGreeting _ | .greetingSent | .startFails | .checkStop | .setConnected | .startLoop
  | .loopTest | .loopFrame _ | .loopNothing | .loopLock | .loopUnlock | .loopSignals
  | .loopReads _ | .stopExchange | .stopConnected _ | .stopLock | .stopSocket | .stopUnlock
  | .close | .disconnects | .beginReceive | .recv _ => .isTrue trivial

/-- The start of a session with the id 7. -/
def greeted : List Label :=
  [.beginGreeting (makeControlFrame .helloAck 7), .send .starting 10, .send .starting 22,
    .greetingSent, .checkStop, .setConnected, .startLoop, .loopTest,
    .loopFrame (makeControlFrame .rumble 7 1 ⟨300, 500⟩)]

/-- `Stop()` waits for the lock while a rumble frame is sent in two parts. -/
def contended : List Label :=
  greeted ++ [.stopExchange, .stopConnected (makeControlFrame .stop 7), .loopLock, .beginReceive,
    .send .controlLoop 31, .recv 5, .recv 27, .send .controlLoop 1, .loopUnlock, .stopLock,
    .stopSocket, .beginReceive, .recv 20, .send .stop 32, .stopUnlock, .close, .recv 12,
    .beginReceive, .recv 32]

theorem framing_exact_contended : ∃ s, system.RunWith Sends contended s ∧ Exact s ∧
    s.returned = [makeControlFrame .helloAck 7, makeControlFrame .rumble 7 1 ⟨300, 500⟩,
      makeControlFrame .stop 7].map PlaintextControlFrameV1.toBytes :=
  have h : system.RunWith Sends contended _ := System.runWith_of_exec rfl
  ⟨_, h, (framing_exact h).1, rfl⟩

/-- A rumble frame is cut off behind 20 bytes, and before the control loop clears
`connected_`, `Stop()` sends its frame. -/
def cutFrame : List Label :=
  greeted ++ [.loopLock, .send .controlLoop 20, .send .controlLoop (-1), .loopUnlock,
    .stopExchange, .stopConnected (makeControlFrame .stop 7), .stopLock, .stopSocket,
    .send .stop 32, .beginReceive, .recv 32, .beginReceive, .recv 32]

/-- **Then the frames are out of step**: what is received is none of those sent. -/
theorem cut_frame_misaligns : ∃ s, system.Run cutFrame s ∧
    ∃ bytes ∈ s.returned, bytes ∉ s.begun.map PlaintextControlFrameV1.toBytes :=
  ⟨_, System.run_of_exec rfl, by decide⟩

end Framing

end RemoteController
