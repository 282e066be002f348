import Scallop.Controller.Connected

/-!
# Connections of switches

The controller looks its switch up by id, but a connection has the id of its switch before that one has
said hello.

* `SwitchEvent` : the events of switches; `AllowedIds` : what all of them keep;
* `Right` : the switch that has registered is found, and no other one makes it go;
* `Process.switch_connections_right_iff` : that is so when its connection has the least endpoint, and no
  connection is open that has not registered.
-/

namespace Scallop

open Machine

/-- What happens to the connections of switches. -/
inductive SwitchEvent where
  | opened (remote : IPv4Port)
  | hello (switch : Nat) (switchId : Option Nat)
  | closed (switch : Nat)
deriving DecidableEq, Repr

def SwitchEvent.toEvent : SwitchEvent → Event
  | .opened remote => .switchOpen remote
  | .hello switch switchId => .switchHello switch switchId
  | .closed switch => .switchClose switch

/-- The connection with the least endpoint. -/
def Connections.first {Meta : Type} (cs : Connections Meta) : Option (IPv4Port × Nat) :=
  cs.connections.toList.head?

namespace Switches

/-- A session that is open, and registered or not. -/
def IsOpen (s : Switches) (i : Nat) (registered : Bool) : Prop :=
  s.server.accepted[i]?.map (fun ws => (ws.isOpen, ws.metaData.registered)) = some (true, registered)

instance (s : Switches) (i : Nat) (registered : Bool) : Decidable (s.IsOpen i registered) :=
  inferInstanceAs (Decidable (_ = _))

/-- The allowed id leads to a registered switch, and is unknown only if there is none. -/
def LookupRight (s : Switches) : Prop :=
  match (connection allowedSwitchId s).result with
  | .ok i => s.IsOpen i true
  | .error _ => ∀ i, ¬ s.IsOpen i true

/-- Every session has the id that is allowed. -/
def AllowedIds (s : Switches) : Prop := ∀ ws ∈ s.server.accepted, ws.metaData.id = allowedSwitchId

theorem allowedIds_init : ({} : Switches).AllowedIds := fun _ h => absurd h List.not_mem_nil

section Ids
variable {s : Switches}

theorem AllowedIds.metaData (h : s.AllowedIds) (i : Nat) :
    (s.server.metaData i).id = allowedSwitchId := by
  unfold Connections.metaData
  split
  · rename_i ws hws
    exact h ws (List.mem_of_getElem? hws)
  · rfl

/-- So a lookup without regard to registration finds the first connection. -/
theorem AllowedIds.connectionById (h : s.AllowedIds) :
    s.connectionById allowedSwitchId = s.server.first := by
  unfold Switches.connectionById Connections.findIf Connections.first
  cases s.server.connections.toList with
  | nil => rfl
  | cons e es => exact List.find?_cons_of_pos (decide_eq_true (h.metaData e.2))

theorem AllowedIds.lookup (h : s.AllowedIds) : (connection allowedSwitchId s).result =
    match s.server.first with
    | some (_, i) => .ok i
    | none => .error (.logicError ("ControllerSwitchInterface: get: switch does not exist, id=" ++
        toString allowedSwitchId)) := by
  unfold connection
  rw [Eff.get_bind_run, h.connectionById]
  cases s.server.first with
  | none => rfl
  | some e => rfl

/-- The lookup is right just when the first connection is that of a registered switch. -/
theorem AllowedIds.lookupRight_iff (h : s.AllowedIds) : s.LookupRight ↔
    (s.server.first = none ∧ ∀ i, ¬ s.IsOpen i true) ∨
      ∃ e, s.server.first = some e ∧ s.IsOpen e.2 true := by
  unfold LookupRight
  rw [h.lookup]
  cases s.server.first with
  | none => exact ⟨fun hno => .inl ⟨rfl, hno⟩, fun h => h.elim And.right fun ⟨_, he, _⟩ => nomatch he⟩
  | some e =>
      refine ⟨fun hopen => .inr ⟨e, rfl, hopen⟩, ?_⟩
      rintro (⟨he, -⟩ | ⟨e', he, hopen⟩)
      · exact nomatch he
      · obtain rfl := Option.some.inj he
        exact hopen

end Ids

/-! ## What events keep -/

section Keeps
variable {i : Nat}

/-- A change of sessions that does not give out other ids. -/
theorem keeps_modify_server {f : Switches → Switches}
    (hf : ∀ s, ∀ ws ∈ (f s).server.accepted, ws.metaData.id = allowedSwitchId ∨
      ∃ ws' ∈ s.server.accepted, ws'.metaData = ws.metaData) :
    Eff.Keeps AllowedIds (Eff.modify f : Program Unit) := by
  refine Eff.keeps_modify fun s hs ws hws => ?_
  rcases hf s ws hws with hid | ⟨ws', hws', hmeta⟩
  · exact hid
  · rw [← hmeta]
    exact hs ws' hws'

theorem accept_keeps {remote : IPv4Port} : Eff.Keeps AllowedIds
    (Eff.modify fun s => { s with server := s.server.accept remote } : Program Unit) := by
  refine keeps_modify_server fun s ws hws => ?_
  rcases List.mem_append.mp hws with hws | hws
  · exact .inr ⟨ws, hws, rfl⟩
  · rw [List.mem_singleton.mp hws]
    exact .inl rfl

theorem mem_close {Meta : Type} {cs : Connections Meta} {ws : WebSocketSession Meta}
    (hws : ws ∈ (cs.close i).accepted) : ∃ ws' ∈ cs.accepted, ws'.metaData = ws.metaData := by
  obtain ⟨k, hk⟩ := List.mem_iff_getElem?.mp hws
  unfold Connections.close at hk
  rw [List.getElem?_modify] at hk
  obtain ⟨ws', hws', rfl⟩ := Option.map_eq_some_iff.mp hk
  refine ⟨ws', List.mem_of_getElem? hws', ?_⟩
  split <;> rfl

theorem close_keeps : Eff.Keeps AllowedIds
    (Eff.modify fun s => { s with server := s.server.close i } : Program Unit) :=
  keeps_modify_server fun _ _ hws => .inr (mem_close hws)

theorem write_keeps {m : SwitchMessage} : Eff.Keeps AllowedIds (write i m) :=
  keeps_modify_server fun _ ws hws => .inr ⟨ws, hws, rfl⟩

theorem remove_keeps {switchId : Nat} : Eff.Keeps AllowedIds (remove switchId) := by
  refine Eff.keeps_get_bind fun s => ?_
  split
  · exact keeps_modify_server fun _ ws hws => .inr ⟨ws, hws, rfl⟩
  · exact Eff.keeps_throw _

theorem onNewSwitch_keeps {switchId : Nat} :
    Eff.Keeps AllowedIds (Controller.onNewSwitch i switchId) := by
  refine Eff.keeps_get_bind fun s => ?_
  split
  · exact Eff.keeps_pure _
  · rename_i hguard
    have hid : switchId = allowedSwitchId := not_not.mp fun hne => hguard (.inr (.inl hne))
    refine Eff.Keeps.bind (keeps_modify_server fun s ws hws => ?_) fun _ => write_keeps
    obtain ⟨k, hk⟩ := List.mem_iff_getElem?.mp hws
    unfold Connections.setMetaData at hk
    rw [List.getElem?_modify] at hk
    obtain ⟨ws', hws', rfl⟩ := Option.map_eq_some_iff.mp hk
    split
    · exact .inl hid
    · exact .inr ⟨ws', List.mem_of_getElem? hws', rfl⟩

end Keeps

/-! ## What closing does -/

/-- A registered switch keeps its connection when the session `i` is closed. -/
def Spares (env : Env) (c : Controller) (i : Nat) : Prop :=
  ∀ remote k, c.switches.server.find? remote = some k → (c.switches.server.metaData k).registered →
    (Controller.handle env (.switchClose i) c).state.switches.server.find? remote = some k

theorem first_find? {s : Switches} {e : IPv4Port × Nat} (h : s.server.first = some e) :
    s.server.find? e.1 = some e.2 :=
  Std.ExtTreeMap.mem_toList_iff_getElem?_eq_some.mp (List.mem_of_head? h)

/-- Removing the allowed id removes the first connection, whichever it is. -/
theorem AllowedIds.find?_remove {s : Switches} (h : s.AllowedIds) (remote : IPv4Port) :
    ((remove allowedSwitchId) s).state.server.find? remote =
      if s.server.first.map Prod.fst = some remote then none else s.server.find? remote := by
  unfold remove
  rw [Eff.get_bind_run, h.connectionById]
  cases s.server.first with
  | none => rfl
  | some e =>
      show (s.server.connections.erase e.1)[remote]? = _
      rw [Std.ExtTreeMap.getElem?_erase]
      by_cases heq : e.1 = remote
      · rw [if_pos (Std.LawfulEqCmp.compare_eq_iff_eq.mpr heq), Option.map_some, heq, if_pos rfl]
      · rw [if_neg fun hc => heq (Std.LawfulEqCmp.compare_eq_iff_eq.mp hc), Option.map_some,
          if_neg fun hc => heq (Option.some.inj hc)]
        rfl

theorem find?_switchClose {env : Env} {c : Controller} {i : Nat} {registered : Bool}
    (h : c.switches.AllowedIds) (hopen : c.switches.IsOpen i registered) (remote : IPv4Port) :
    (Controller.handle env (.switchClose i) c).state.switches.server.find? remote =
      if c.switches.server.first.map Prod.fst = some remote then none
      else c.switches.server.find? remote := by
  obtain ⟨ws, hws, hflags⟩ := Option.map_eq_some_iff.mp hopen
  have hisOpen : ws.isOpen = true := (Prod.mk.inj hflags).1
  have hid : ws.metaData.id = allowedSwitchId := h ws (List.mem_of_getElem? hws)
  simp only [Controller.handle, Controller.onSwitches, Eff.zoom, Eff.get_bind_run, hws, hisOpen,
    not_true_eq_false, if_false, Eff.modify_bind_run, hid]
  exact AllowedIds.find?_remove (close_keeps (i := i) c.switches h) remote

/-- So a registered switch keeps its connection unless it is the first one. -/
theorem spares_iff {env : Env} {c : Controller} {i : Nat} {registered : Bool}
    (h : c.switches.AllowedIds) (hopen : c.switches.IsOpen i registered) :
    Spares env c i ↔
      ∀ e, c.switches.server.first = some e → ¬ (c.switches.server.metaData e.2).registered = true := by
  constructor
  · intro hspares e he hreg
    have hkept := hspares e.1 e.2 (first_find? he) hreg
    rw [find?_switchClose h hopen, he, Option.map_some, if_pos rfl] at hkept
    exact nomatch hkept
  · intro hfirst remote k hk hreg
    rw [find?_switchClose h hopen, if_neg, hk]
    intro heq
    obtain ⟨e, he, rfl⟩ := Option.map_eq_some_iff.mp heq
    obtain rfl := Option.some.inj ((first_find? he).symm.trans hk)
    exact hfirst e he hreg

/-- A switch that has registered is found as long as it is open, no other one is found, and nobody else
makes its connection go. -/
structure Right (env : Env) (c : Controller) : Prop where
  lookup : c.switches.LookupRight
  close : ∀ i, c.switches.IsOpen i false → Spares env c i

/-- No switch is there; or the first connection is that of a registered one, and there is no other
switch that has not registered. -/
def OneSwitch (s : Switches) : Prop :=
  (s.server.first = none ∧ ∀ i, ¬ s.IsOpen i true) ∨
    ((∃ e, s.server.first = some e ∧ s.IsOpen e.2 true) ∧ ∀ i, ¬ s.IsOpen i false)

theorem metaData_of_isOpen {s : Switches} {i : Nat} {registered : Bool} (h : s.IsOpen i registered) :
    (s.server.metaData i).registered = registered := by
  obtain ⟨ws, hws, hflags⟩ := Option.map_eq_some_iff.mp h
  unfold Connections.metaData
  rw [hws]
  exact (Prod.mk.inj hflags).2

theorem right_iff {env : Env} {c : Controller} (h : c.switches.AllowedIds) :
    Right env c ↔ c.switches.OneSwitch := by
  constructor
  · rintro ⟨hlookup, hclose⟩
    rcases h.lookupRight_iff.mp hlookup with hnone | ⟨e, he, hopen⟩
    · exact .inl hnone
    · refine .inr ⟨⟨e, he, hopen⟩, fun i hi => ?_⟩
      exact (spares_iff h hi).mp (hclose i hi) e he (metaData_of_isOpen hopen)
  · intro hone
    refine ⟨h.lookupRight_iff.mpr (hone.imp_right And.left), fun i hi => (spares_iff h hi).mpr ?_⟩
    intro e he
    rcases hone with ⟨hnone, -⟩ | ⟨-, hno⟩
    · exact nomatch hnone.symm.trans he
    · exact absurd hi (hno i)

end Switches

/-! ## Runs -/

namespace Process

theorem handle_keepsAllowedIds (env : Env) (event : SwitchEvent) :
    Eff.Keeps (fun c => c.switches.AllowedIds) (Controller.handle env event.toEvent) := by
  have hzoom : ∀ m : Switches.Program Unit, Eff.Keeps Switches.AllowedIds m →
      Eff.Keeps (fun c => c.switches.AllowedIds) (Controller.onSwitches m) :=
    fun m hm c hc => hm c.switches hc
  cases event with
  | opened remote => exact hzoom _ Switches.accept_keeps
  | hello switch switchId =>
      refine hzoom _ (Eff.keeps_get_bind fun s => ?_)
      split
      · split
        · split
          · exact Switches.onNewSwitch_keeps
          · exact Eff.keeps_pure _
        · exact Eff.keeps_pure _
      · exact Eff.keeps_pure _
  | closed switch =>
      refine hzoom _ (Eff.keeps_get_bind fun s => ?_)
      split
      · exact Eff.keeps_pure _
      · split
        · exact Eff.keeps_pure _
        · exact Switches.close_keeps.bind fun _ => Switches.remove_keeps

theorem step_allowedIds {env : Env} {p : Process} (event : SwitchEvent)
    (h : p.controller.switches.AllowedIds) :
    (p.step env event.toEvent).1.controller.switches.AllowedIds := by
  cases hfault : p.fault with
  | some e =>
      unfold step
      rw [hfault]
      exact h
  | none =>
      rw [(step_run hfault).2]
      exact handle_keepsAllowedIds env event _ h

theorem final_allowedIds (env : Env) (sfuConfig : SFUConfig) (events : List SwitchEvent) :
    (final (step env) (init sfuConfig) (events.map SwitchEvent.toEvent)).controller.switches.AllowedIds := by
  rw [final, List.foldl_map]
  exact List.foldlRecOn (motive := fun p : Process => p.controller.switches.AllowedIds) events _
    Switches.allowedIds_init fun _ h event _ => step_allowedIds event h

/-- **Connections of switches.** After every run of events of switches, the controller finds the switch
that has registered, and only that one makes it go, just when there is one switch. -/
theorem switch_connections_right_iff (env : Env) (sfuConfig : SFUConfig) (events : List SwitchEvent) :
    let c := (final (step env) (init sfuConfig) (events.map SwitchEvent.toEvent)).controller
    Switches.Right env c ↔ c.switches.OneSwitch :=
  Switches.right_iff (final_allowedIds env sfuConfig events)

/-- A switch at the larger endpoint registers, one at the smaller endpoint only connects. -/
def waitingEvents : List SwitchEvent :=
  [.opened ⟨1, 1⟩, .opened ⟨2, 2⟩, .hello 1 (some 0)]

/-- A switch registers, another one connects, and leaves. -/
def leavingEvents : List SwitchEvent :=
  [.opened ⟨1, 1⟩, .hello 0 (some 0), .opened ⟨2, 2⟩]

/-- The first switch of the map is found and has not registered. -/
abbrev Waiting (c : Controller) : Prop :=
  (Switches.connection allowedSwitchId c.switches).result.toOption = some 0 ∧
    ¬ c.switches.IsOpen 0 true ∧ c.switches.IsOpen 1 true

/-- The first switch of the map has registered, and loses its connection when the second one is closed. -/
abbrev Leaving (c : Controller) : Prop :=
  c.switches.server.find? ⟨1, 1⟩ = some 0 ∧ (c.switches.server.metaData 0).registered = true ∧
    c.switches.IsOpen 1 false ∧
      (Controller.handle plainEnv (.switchClose 1) c).state.switches.server.find? ⟨1, 1⟩ = none

theorem waiting_leaving :
    Waiting (final (step plainEnv) (init plainConfig)
      (waitingEvents.map SwitchEvent.toEvent)).controller ∧
    Leaving (final (step plainEnv) (init plainConfig)
      (leavingEvents.map SwitchEvent.toEvent)).controller := by
  decide +kernel

/-- A lookup finds a switch that has not registered, although another one has; and the registered switch
goes when one that has not registered is closed. -/
theorem other_switch_found_and_removed :
    ¬ (final (step plainEnv) (init plainConfig)
      (waitingEvents.map SwitchEvent.toEvent)).controller.switches.LookupRight ∧
    ¬ Switches.Right plainEnv (final (step plainEnv) (init plainConfig)
      (leavingEvents.map SwitchEvent.toEvent)).controller := by
  obtain ⟨hwaiting, hleaving⟩ := waiting_leaving
  generalize final (step plainEnv) (init plainConfig) (waitingEvents.map SwitchEvent.toEvent) = p at *
  generalize final (step plainEnv) (init plainConfig) (leavingEvents.map SwitchEvent.toEvent) = q at *
  constructor
  · obtain ⟨hfound, hnot, -⟩ := hwaiting
    intro h
    unfold Switches.LookupRight at h
    cases hresult : (Switches.connection allowedSwitchId p.controller.switches).result with
    | error e =>
        rw [hresult] at hfound
        exact nomatch hfound
    | ok i =>
        rw [hresult] at hfound h
        rw [← Option.some.inj hfound] at hnot
        exact hnot h
  · obtain ⟨hfind, hreg, hopen, hgone⟩ := hleaving
    intro h
    exact nomatch hgone.symm.trans (h.close 1 hopen ⟨1, 1⟩ 0 hfind hreg)

end Process

end Scallop
