import RemoteController.Vigem.Resources

/-!
# The driver's resources balance

Every client and target that `Create` gets from the driver is freed once or held, with
its connection and its notification, whatever the driver answers.

* `moves_…`: the calls of each way through `Create`, `SubmitState` and `Destroy`, as a walk
  of the four ledgers.
* `Resources`: what holds between two calls of the backend; `Resources.operation` keeps it.
* `resources_balance`: the ledgers, `created_`, and what a failed `Create` and a `Destroy`
  leave.
-/

namespace RemoteController

open Lib Protocol

namespace Vigem

variable {κ : Type}

/-! ### One operation -/

/-- The calls of one operation are about the client `c` and the target `t`, which they
find in the phase `p` and leave held or not. -/
structure Moves (calls : List Call) (c t : Nat) (p : Hold) (held : Prop) : Prop where
  onlyClient : ∀ e ∈ calls, ∀ n, e.client = some n → n = c
  onlyTarget : ∀ e ∈ calls, ∀ n, e.target = some n → n = t
  clientMemory : clientMemory.Ends c p calls held
  connection : connection.Ends c p calls held
  targetMemory : targetMemory.Ends t p calls held
  registration : registration.Ends t p calls held

/-- Where a client, its connection, a target and its notification are. -/
structure Phases where
  client : Hold
  connection : Hold
  target : Hold
  registration : Hold

/-- The four after a call, which is about them. -/
def Phases.after (q : Phases) (e : Call) : Option Phases := do
  let client ← q.client.after (e.client.bind fun _ => e.onClientMemory)
  let connection ← q.connection.after (e.client.bind fun _ => e.onConnection)
  let target ← q.target.after (e.target.bind fun _ => e.onTargetMemory)
  let registration ← q.registration.after (e.target.bind fun _ => e.onRegistration)
  return ⟨client, connection, target, registration⟩

/-- The call names no other client and no other target. -/
def Call.About (e : Call) (c t : Nat) : Prop :=
  (e.client = some c ∨ e.client = none) ∧ (e.target = some t ∨ e.target = none)

/-- The four ledgers are walked at once. -/
theorem walk_of_phases {c t : Nat} : ∀ {calls : List Call} {q r : Phases},
    (∀ e ∈ calls, e.About c t) → calls.foldlM Phases.after q = some r →
    clientMemory.walk c q.client calls = some r.client ∧
      connection.walk c q.connection calls = some r.connection ∧
      targetMemory.walk t q.target calls = some r.target ∧
      registration.walk t q.registration calls = some r.registration := by
  intro calls
  induction calls with
  | nil =>
    intro q r _ hr
    obtain rfl := Option.some.inj hr
    exact ⟨rfl, rfl, rfl, rfl⟩
  | cons e calls ih =>
    intro q r ha hr
    obtain ⟨hc, ht⟩ := ha e List.mem_cons_self
    rw [List.foldlM_cons] at hr
    obtain ⟨m, hm, hr⟩ := Option.bind_eq_some_iff.mp hr
    simp only [Phases.after, Option.bind_eq_bind, Option.bind_eq_some_iff, Option.pure_def,
      Option.some.injEq] at hm
    obtain ⟨client, h1, connected, h2, target, h3, registered, h4, rfl⟩ := hm
    obtain ⟨w1, w2, w3, w4⟩ := ih (fun e' he' => ha e' (List.mem_cons_of_mem _ he')) hr
    exact ⟨(Ledger.walk_of_names hc h1).trans w1, (Ledger.walk_of_names hc h2).trans w2,
      (Ledger.walk_of_names ht h3).trans w3, (Ledger.walk_of_names ht h4).trans w4⟩

/-- The calls name one client and one target, and the phases of the four evaluate. -/
theorem Moves.of_phases {calls : List Call} {c t : Nat} {p : Hold} {held : Prop} (q : Phases)
    (ha : (calls.map fun e => (e.client.getD c, e.target.getD t)) = calls.map fun _ => (c, t))
    (hq : calls.foldlM Phases.after ⟨p, p, p, p⟩ = some q)
    (hh : ∀ r ∈ [q.client, q.connection, q.target, q.registration], r = .held ↔ held) :
    Moves calls c t p held := by
  have habout : ∀ e ∈ calls, e.About c t := by
    intro e he
    have h := Prod.mk.inj (List.map_inj_left.mp ha e he)
    simpa [Call.About, Option.getD_eq_iff] using h
  obtain ⟨h1, h2, h3, h4⟩ := walk_of_phases habout hq
  refine ⟨fun e he n hn => ?_, fun e he n hn => ?_, ⟨_, h1, hh _ (by simp)⟩,
    ⟨_, h2, hh _ (by simp)⟩, ⟨_, h3, hh _ (by simp)⟩, ⟨_, h4, hh _ (by simp)⟩⟩
  · have h := (habout e he).1
    rw [hn] at h
    simpa using h
  · have h := (habout e he).2
    rw [hn] at h
    simpa using h

theorem Moves.congr {calls : List Call} {c t : Nat} {p : Hold} {held held' : Prop}
    (h : Moves calls c t p held) (hh : held ↔ held') : Moves calls c t p held' := by
  rwa [← hh]

theorem moves_alloc_failed (c t : Nat) : Moves [.alloc none] c t .fresh False :=
  .of_phases ⟨.fresh, .fresh, .fresh, .fresh⟩ rfl rfl (by simp)

theorem moves_connect_failed (c t : Nat) {connected : VigemError}
    (hc : connected.success = false) :
    Moves [.alloc (some c), .connect c connected, .free c] c t .fresh False := by
  refine .of_phases ⟨.released, .fresh, .fresh, .fresh⟩ rfl ?_ (by simp)
  simp only [List.foldlM, Phases.after, Call.onConnection, hc]
  rfl

theorem moves_target_failed (c t : Nat) {connected : VigemError}
    (hc : connected.success = true) :
    Moves [.alloc (some c), .connect c connected, .targetX360Alloc none, .disconnect c, .free c]
      c t .fresh False := by
  refine .of_phases ⟨.released, .released, .fresh, .fresh⟩ rfl ?_ (by simp)
  simp only [List.foldlM, Phases.after, Call.onConnection, hc]
  rfl

theorem moves_add_failed (c t : Nat) {connected : VigemError} (added : VigemError)
    (hc : connected.success = true) :
    Moves [.alloc (some c), .connect c connected, .targetX360Alloc (some t), .targetAdd c t added,
      .targetFree t, .disconnect c, .free c] c t .fresh False := by
  refine .of_phases ⟨.released, .released, .released, .fresh⟩ rfl ?_ (by simp)
  simp only [List.foldlM, Phases.after, Call.onConnection, hc]
  rfl

theorem moves_register_failed (c t : Nat) {connected registered : VigemError}
    (added removed : VigemError) (hc : connected.success = true) (hr : registered.success = false) :
    Moves [.alloc (some c), .connect c connected, .targetX360Alloc (some t), .targetAdd c t added,
      .registerNotification c t registered, .targetRemove c t removed, .targetFree t,
      .disconnect c, .free c] c t .fresh False := by
  refine .of_phases ⟨.released, .released, .released, .fresh⟩ rfl ?_ (by simp)
  simp only [List.foldlM, Phases.after, Call.onConnection, Call.onRegistration, hc, hr]
  rfl

theorem moves_created (c t : Nat) {connected registered : VigemError} (added : VigemError)
    (hc : connected.success = true) (hr : registered.success = true) :
    Moves [.alloc (some c), .connect c connected, .targetX360Alloc (some t), .targetAdd c t added,
      .registerNotification c t registered] c t .fresh True := by
  refine .of_phases ⟨.held, .held, .held, .held⟩ rfl ?_ (by simp)
  simp only [List.foldlM, Phases.after, Call.onConnection, Call.onRegistration, hc, hr]
  rfl

theorem moves_update (c t : Nat) (report : XusbReport) (result : VigemError) :
    Moves [.update c t report result] c t .held True :=
  .of_phases ⟨.held, .held, .held, .held⟩ rfl rfl (by simp)

theorem moves_destroyed (c t : Nat) (attached : Bool) (updated removed : VigemError) :
    Moves (([.unregisterNotification t, .isAttached t attached] : List Call) ++
      (if attached then [.update c t {} updated, .targetRemove c t removed] else []) ++
      [.targetFree t, .disconnect c, .free c]) c t .held False := by
  cases attached <;>
    exact .of_phases ⟨.released, .released, .released, .released⟩ rfl rfl (by simp)

/-- The backend holds the client and the target, or neither. -/
def Holds (b : VigemVirtualControllerBackend κ) : Option (Nat × Nat) → Prop
  | some (c, t) => b.client = some c ∧ b.target = some t ∧ b.notificationRegistered = true ∧
      b.created = true
  | none => b.client = none ∧ b.target = none ∧ b.notificationRegistered = false ∧
      b.created = false

/-- What an operation finds: nothing is held and the next names are used, or `c` and `t`
are held. -/
def Finds (s : State κ) (c t : Nat) : Hold → Prop
  | .fresh => Holds s.backend none ∧ c = s.clients ∧ t = s.targets
  | .held => Holds s.backend (some (c, t))
  | .released => False

/-- One operation, from `s` to `s'`. -/
structure Operation (s s' : State κ) (calls : List Call) (c t : Nat) (p : Hold) (held : Prop) :
    Prop where
  finds : Finds s c t p
  log : s'.calls = s.calls ++ calls
  moves : Moves calls c t p held
  kept : held → Holds s'.backend (some (c, t))
  gone : ¬ held → Holds s'.backend none
  newClient : p = .fresh → ∀ e ∈ calls, ∀ n, e.client = some n → n < s'.clients
  newTarget : p = .fresh → ∀ e ∈ calls, ∀ n, e.target = some n → n < s'.targets
  clients : s.clients ≤ s'.clients
  targets : s.targets ≤ s'.targets

/-- An operation about a client below a bound names no other. -/
theorem Moves.client_lt {calls : List Call} {c t m : Nat} {p : Hold} {held : Prop}
    (h : Moves calls c t p held) (hm : c < m) :
    ∀ e ∈ calls, ∀ n, e.client = some n → n < m := by
  intro e he n hn
  rwa [h.onlyClient e he n hn]

theorem Moves.target_lt {calls : List Call} {c t m : Nat} {p : Hold} {held : Prop}
    (h : Moves calls c t p held) (hm : t < m) :
    ∀ e ∈ calls, ∀ n, e.target = some n → n < m := by
  intro e he n hn
  rwa [h.onlyTarget e he n hn]

theorem create_operation {s : State κ} (callback : Option κ) (r : CreateResults)
    (hb : Holds s.backend none) : ∃ calls, Operation s (create s callback r).1 calls
      s.clients s.targets .fresh ((create s callback r).2 = true) := by
  have hf : Finds s s.clients s.targets .fresh := ⟨hb, rfl, rfl⟩
  have hfails : False ↔ false = true := iff_of_false not_false Bool.false_ne_true
  have hclient := Nat.lt_succ_self s.clients
  have htarget := Nat.lt_succ_self s.targets
  obtain ⟨hc, ht, hn, hcr⟩ := hb
  unfold create
  rw [if_neg (by rw [hcr]; exact Bool.false_ne_true)]
  split
  · have hm := moves_alloc_failed s.clients s.targets
    exact ⟨_, hf, rfl, hm.congr hfails, fun he => absurd he Bool.false_ne_true,
      fun _ => ⟨hc, ht, hn, hcr⟩, by simp, by simp, Nat.le_refl _, Nat.le_refl _⟩
  split
  · rename_i hcon
    rw [Bool.not_eq_true'] at hcon
    have hm := moves_connect_failed s.clients s.targets hcon
    exact ⟨_, hf, by simp, hm.congr hfails, fun he => absurd he Bool.false_ne_true,
      fun _ => ⟨hc, ht, hn, hcr⟩, fun _ => hm.client_lt hclient, by simp,
      Nat.le_succ _, Nat.le_refl _⟩
  rename_i hcon
  rw [Bool.not_eq_true', Bool.not_eq_false] at hcon
  split
  · have hm := moves_target_failed s.clients s.targets hcon
    exact ⟨_, hf, by simp, hm.congr hfails, fun he => absurd he Bool.false_ne_true,
      fun _ => ⟨hc, ht, hn, hcr⟩, fun _ => hm.client_lt hclient, by simp,
      Nat.le_succ _, Nat.le_refl _⟩
  split
  · have hm := moves_add_failed s.clients s.targets r.add hcon
    exact ⟨_, hf, by simp, hm.congr hfails, fun he => absurd he Bool.false_ne_true,
      fun _ => ⟨hc, ht, hn, hcr⟩, fun _ => hm.client_lt hclient, fun _ => hm.target_lt htarget,
      Nat.le_succ _, Nat.le_succ _⟩
  split
  · rename_i hreg
    rw [Bool.not_eq_true'] at hreg
    have hm := moves_register_failed s.clients s.targets r.add r.remove hcon hreg
    exact ⟨_, hf, by simp, hm.congr hfails, fun he => absurd he Bool.false_ne_true,
      fun _ => ⟨hc, ht, hn, hcr⟩, fun _ => hm.client_lt hclient, fun _ => hm.target_lt htarget,
      Nat.le_succ _, Nat.le_succ _⟩
  · rename_i hreg
    rw [Bool.not_eq_true', Bool.not_eq_false] at hreg
    have hm := moves_created s.clients s.targets r.add hcon hreg
    exact ⟨_, hf, by simp, hm.congr (iff_of_true trivial rfl), fun _ => ⟨rfl, rfl, rfl, rfl⟩,
      fun hne => absurd rfl hne, fun _ => hm.client_lt hclient, fun _ => hm.target_lt htarget,
      Nat.le_succ _, Nat.le_succ _⟩

theorem submitState_operation {s : State κ} {c t : Nat} (state : GamepadStateV1)
    (result : VigemError) (hb : Holds s.backend (some (c, t))) :
    ∃ calls, Operation s (submitState s state result).1 calls c t .held True := by
  have hf : Finds s c t .held := hb
  obtain ⟨hc, ht, hn, hcr⟩ := hb
  refine ⟨[.update c t (toXusbReport state) result], ?_⟩
  unfold submitState
  rw [hc, ht, hcr]
  dsimp only
  split
  all_goals
    exact ⟨hf, rfl, moves_update _ _ _ _, fun _ => ⟨hc, ht, hn, hcr⟩, by simp, by simp, by simp,
      Nat.le_refl _, Nat.le_refl _⟩

theorem submitState_none {s : State κ} (state : GamepadStateV1) (result : VigemError)
    (hb : Holds s.backend none) : submitState s state result = (s, false) := by
  obtain ⟨hc, ht, hn, hcr⟩ := hb
  rw [submitState, hc, ht, hcr]

theorem destroy_operation {s : State κ} {c t : Nat} (r : DestroyResults)
    (hb : Holds s.backend (some (c, t))) :
    ∃ calls, Operation s (destroy s r) calls c t .held False := by
  have hf : Finds s c t .held := hb
  obtain ⟨hc, ht, hn, hcr⟩ := hb
  refine ⟨_, hf, ?_, moves_destroyed c t r.attached r.update r.remove, by simp, fun _ => ?_,
    by simp, by simp, ?_, ?_⟩
  all_goals
    unfold destroy
    rw [hc, ht, hn]
    cases r.attached <;> simp [Holds]

theorem destroy_none {s : State κ} (r : DestroyResults) (hb : Holds s.backend none) :
    destroy s r = { s with
      backend := { s.backend with created := false, rumbleCallback := none } } := by
  obtain ⟨hc, ht, -, -⟩ := hb
  rw [destroy, hc, ht]

/-! ### All operations -/

/-- **Between two calls of the backend.** -/
structure Resources (s : State κ) : Prop where
  clients : clientMemory.Walked (fun c => s.backend.client = some c) s.calls
  connections : connection.Walked (fun c => s.backend.client = some c) s.calls
  targets : targetMemory.Walked (fun t => s.backend.target = some t) s.calls
  registrations : registration.Walked (fun t => s.backend.target = some t) s.calls
  holds : ∃ held, Holds s.backend held
  /-- The next names are new. -/
  namedClient : ∀ e ∈ s.calls, ∀ c, e.client = some c → c < s.clients
  namedTarget : ∀ e ∈ s.calls, ∀ t, e.target = some t → t < s.targets

theorem Resources.client_lt {s : State κ} {c : Nat} (h : Resources s)
    (hc : s.backend.client = some c) : c < s.clients := by
  obtain ⟨e, he, hn⟩ := h.clients.named hc
  exact h.namedClient e he c hn

theorem Resources.target_lt {s : State κ} {t : Nat} (h : Resources s)
    (ht : s.backend.target = some t) : t < s.targets := by
  obtain ⟨e, he, hn⟩ := h.targets.named ht
  exact h.namedTarget e he t hn

variable {s s' : State κ} {calls : List Call} {c t : Nat} {p : Hold} {held : Prop}

/-- The names are new, or they are those of what is held. -/
theorem Operation.place (h : Operation s s' calls c t p held) :
    p = .fresh ∧ (s.backend.client = none ∧ c = s.clients) ∧
        s.backend.target = none ∧ t = s.targets ∨
      p = .held ∧ s.backend.client = some c ∧ s.backend.target = some t := by
  have hf := h.finds
  cases p with
  | fresh => exact Or.inl ⟨rfl, ⟨hf.1.1, hf.2.1⟩, hf.1.2.1, hf.2.2⟩
  | held => exact Or.inr ⟨rfl, hf.1, hf.2.1⟩
  | released => exact hf.elim

/-- A handle of the backend, before and after an operation about `n`. -/
theorem handle_moves {field field' : Option Nat} {n : Nat} {held : Prop}
    (hs : field = none ∨ field = some n) (hkept : held → field' = some n)
    (hgone : ¬ held → field' = none) :
    (held ↔ field' = some n) ∧ ∀ m, m ≠ n → (field' = some m ↔ field = some m) := by
  by_cases hh : held
  · rcases hs with hs | hs <;> simp [hh, hs, hkept hh, eq_comm]
  · rcases hs with hs | hs <;> simp [hh, hs, hgone hh, eq_comm]

/-- A name that no call has used yet is new. -/
theorem finds_of_lt {L : Ledger Call Nat} {log : List Call} {field : Option Nat} {n next : Nat}
    (hnamed : ∀ e ∈ log, ∀ m, L.names e = some m → m < next)
    (hp : p = .fresh ∧ n = next ∨ p = .held ∧ field = some n) :
    L.Finds (fun m => field = some m) log n p := by
  rcases hp with ⟨hp, hn⟩ | hp
  · refine Or.inl ⟨hp, fun e he hm => ?_⟩
    have := hnamed e he n hm
    omega
  · exact Or.inr hp

/-- Names below a bound stay there when the log grows. -/
theorem named_append {name : Call → Option Nat} {log : List Call} {m n : Nat}
    (hlog : ∀ e ∈ log, ∀ h, name e = some h → h < m) (hle : m ≤ n)
    (hcalls : ∀ e ∈ calls, ∀ h, name e = some h → h < n) :
    ∀ e ∈ log ++ calls, ∀ h, name e = some h → h < n := by
  intro e he h hn
  rcases List.mem_append.mp he with he | he
  · exact Nat.lt_of_lt_of_le (hlog e he h hn) hle
  · exact hcalls e he h hn

theorem Resources.operation (h : Resources s) (ho : Operation s s' calls c t p held) :
    Resources s' := by
  have hm := ho.moves
  have hplace := ho.place
  obtain ⟨hc, hclient⟩ := handle_moves (hplace.imp (fun hp => hp.2.1.1) fun hp => hp.2.1)
    (fun hh => (ho.kept hh).1) fun hh => (ho.gone hh).1
  obtain ⟨ht, htarget⟩ := handle_moves (hplace.imp (fun hp => hp.2.2.1) fun hp => hp.2.2)
    (fun hh => (ho.kept hh).2.1) fun hh => (ho.gone hh).2.1
  have hfc := hplace.imp (fun hp => And.intro hp.1 hp.2.1.2) fun hp => And.intro hp.1 hp.2.1
  have hft := hplace.imp (fun hp => And.intro hp.1 hp.2.2.2) fun hp => And.intro hp.1 hp.2.2
  refine ⟨?_, ?_, ?_, ?_, ?_, ?_, ?_⟩
  · rw [ho.log]
    exact h.clients.append (finds_of_lt h.namedClient hfc) hm.onlyClient hclient
      (by rw [← hc]; exact hm.clientMemory)
  · rw [ho.log]
    exact h.connections.append (finds_of_lt h.namedClient hfc) hm.onlyClient hclient
      (by rw [← hc]; exact hm.connection)
  · rw [ho.log]
    exact h.targets.append (finds_of_lt h.namedTarget hft) hm.onlyTarget htarget
      (by rw [← ht]; exact hm.targetMemory)
  · rw [ho.log]
    exact h.registrations.append (finds_of_lt h.namedTarget hft) hm.onlyTarget htarget
      (by rw [← ht]; exact hm.registration)
  · by_cases hh : held
    · exact ⟨_, ho.kept hh⟩
    · exact ⟨_, ho.gone hh⟩
  · rw [ho.log]
    refine named_append h.namedClient ho.clients ?_
    rcases hplace with ⟨hp, _⟩ | ⟨_, hp, _⟩
    · exact ho.newClient hp
    · exact hm.client_lt (Nat.lt_of_lt_of_le (h.client_lt hp) ho.clients)
  · rw [ho.log]
    refine named_append h.namedTarget ho.targets ?_
    rcases hplace with ⟨hp, _⟩ | ⟨_, _, hp⟩
    · exact ho.newTarget hp
    · exact hm.target_lt (Nat.lt_of_lt_of_le (h.target_lt hp) ho.targets)

theorem resources_init : Resources ({} : State κ) where
  clients := Ledger.walked_nil fun _ => by simp
  connections := Ledger.walked_nil fun _ => by simp
  targets := Ledger.walked_nil fun _ => by simp
  registrations := Ledger.walked_nil fun _ => by simp
  holds := ⟨none, rfl, rfl, rfl, rfl⟩
  namedClient := by simp
  namedTarget := by simp

theorem Resources.after (h : Resources s) (op : Op κ) : Resources (after s op) := by
  obtain ⟨held, hb⟩ := h.holds
  cases op with
  | create callback results =>
    cases held with
    | none =>
      obtain ⟨_, ho⟩ := create_operation callback results hb
      exact h.operation ho
    | some held =>
      show Resources (create s callback results).1
      rw [create, if_pos hb.2.2.2]
      exact h
  | submitState state result =>
    cases held with
    | none =>
      show Resources (submitState s state result).1
      rw [submitState_none state result hb]
      exact h
    | some held =>
      obtain ⟨_, ho⟩ := submitState_operation state result hb
      exact h.operation ho
  | destroy results =>
    cases held with
    | none =>
      show Resources (destroy s results)
      rw [destroy_none results hb]
      exact ⟨h.clients, h.connections, h.targets, h.registrations,
        ⟨none, hb.1, hb.2.1, hb.2.2.1, rfl⟩, h.namedClient, h.namedTarget⟩
    | some held =>
      obtain ⟨_, ho⟩ := destroy_operation results hb
      exact h.operation ho

theorem resources_of_run {l : List (Op κ)} (h : (system κ).Run l s) : Resources s :=
  h.invariant (P := fun _ s => Resources s) resources_init fun _ s op _ _ hr hn => by
    obtain rfl := Option.some.inj hn
    exact hr.after op

/-! ### The balance -/

theorem Resources.created_iff (h : Resources s) : s.backend.created = true ↔
    s.backend.client.isSome ∧ s.backend.target.isSome ∧
      s.backend.notificationRegistered = true := by
  obtain ⟨held, hb⟩ := h.holds
  cases held with
  | none => simp [hb.1, hb.2.2.2]
  | some held => simp [hb.1, hb.2.1, hb.2.2.1, hb.2.2.2]

theorem Resources.registered (h : Resources s) : registration.Walked
    (fun t => s.backend.target = some t ∧ s.backend.notificationRegistered = true) s.calls := by
  intro t
  obtain ⟨p, hp, hh⟩ := h.registrations t
  obtain ⟨held, hb⟩ := h.holds
  refine ⟨p, hp, hh.trans ?_⟩
  cases held with
  | none => simp [hb.2.1]
  | some held => simp [hb.2.2.1]

theorem Resources.create_false (h : Resources s) {callback : Option κ} {r : CreateResults}
    (hr : (create s callback r).2 = false) :
    (create s callback r).1.backend.client = s.backend.client ∧
      (create s callback r).1.backend.target = s.backend.target ∧
      (s.backend.created = false → s.backend.client = none ∧ s.backend.target = none) := by
  obtain ⟨held, hb⟩ := h.holds
  cases held with
  | none =>
    obtain ⟨_, ho⟩ := create_operation callback r hb
    have hn := ho.gone (by simp [hr])
    exact ⟨hn.1.trans hb.1.symm, hn.2.1.trans hb.2.1.symm, fun _ => ⟨hb.1, hb.2.1⟩⟩
  | some held =>
    rw [create, if_pos hb.2.2.2]
    exact ⟨rfl, rfl, fun hc => absurd (hb.2.2.2.symm.trans hc) (by decide)⟩

theorem Resources.destroy_holds (h : Resources s) (r : DestroyResults) :
    Holds (destroy s r).backend none := by
  obtain ⟨held, hb⟩ := h.holds
  cases held with
  | none =>
    rw [destroy_none r hb]
    exact ⟨hb.1, hb.2.1, hb.2.2.1, rfl⟩
  | some held =>
    obtain ⟨_, ho⟩ := destroy_operation r hb
    exact ho.gone not_false

/-- With nothing held, `Create` succeeds if the driver agrees to everything. -/
theorem create_ok {s : State κ} (callback : Option κ) (hb : Holds s.backend none) :
    (create s callback {}).2 = true := by
  rw [create, if_neg (by simp [hb.2.2.2])]
  rfl

/-- **The driver's resources balance**, after any calls of the backend and any answers. -/
theorem resources_balance {l : List (Op κ)} {s : State κ} (h : (system κ).Run l s) :
    clientMemory.Balanced (fun c => s.backend.client = some c) s.calls ∧
      targetMemory.Balanced (fun t => s.backend.target = some t) s.calls ∧
      connection.Balanced (fun c => s.backend.client = some c) s.calls ∧
      registration.Balanced
        (fun t => s.backend.target = some t ∧ s.backend.notificationRegistered = true) s.calls ∧
      (s.backend.created = true ↔ s.backend.client.isSome ∧ s.backend.target.isSome ∧
        s.backend.notificationRegistered = true) ∧
      (∀ callback r, (create s callback r).2 = false →
        (create s callback r).1.backend.client = s.backend.client ∧
          (create s callback r).1.backend.target = s.backend.target ∧
          (s.backend.created = false → s.backend.client = none ∧ s.backend.target = none)) ∧
      ∀ r, (destroy s r).backend.client = none ∧ (destroy s r).backend.target = none ∧
        ∀ callback, (create (destroy s r) callback {}).2 = true := by
  have hr := resources_of_run h
  refine ⟨hr.clients.balanced, hr.targets.balanced, hr.connections.balanced,
    hr.registered.balanced, hr.created_iff, fun _ _ => hr.create_false, fun r => ?_⟩
  have hd := hr.destroy_holds r
  exact ⟨hd.1, hd.2.1, fun callback => create_ok callback hd⟩

/-- A target is created, takes a state, is destroyed, and a second one cannot be added. -/
theorem balance_after_failed_create : ∃ s, (system Unit).Run
    [.create none {}, .submitState .neutral .none, .destroy {},
      .create none { add := .noFreeSlot }] s ∧
    s.calls.length = 20 ∧
    clientMemory.Balanced (fun c => s.backend.client = some c) s.calls := by
  have h : (system Unit).Run
      [.create none {}, .submitState .neutral .none, .destroy {},
        .create none { add := .noFreeSlot }] _ := System.run_of_exec rfl
  exact ⟨_, h, rfl, (resources_balance h).1⟩

/-- A second `Create` returns false, and the backend holds what the first one made. -/
theorem second_create_holds : ¬ ∀ (l : List (Op Unit)) (s : State Unit),
    (system Unit).Run l s → ∀ callback r, (create s callback r).2 = false →
      (create s callback r).1.backend.client = none ∧
        (create s callback r).1.backend.target = none := by
  intro h
  have hrun : (system Unit).Run [.create none {}] (create {} none {}).1 := System.run_of_exec rfl
  exact absurd (h _ _ hrun none {} rfl).1 (by decide)

end Vigem

end RemoteController
