import PklHost.Hub.State

/-!
# Doors

What a shutdown closes, and no more of a hub than that: the connection, the requests to create, and every
session, with the registry that tells the shutdown which sessions there are.  `Doors.Moves` lists what can
happen to them, one thing at a time: the steps of the shutdown, and what goes on beside it.

A session is covered if it is closed, or registered, or still on the list of the shutdown
(`Doors.Covered`).  Whatever happens, a session stays covered as long as no other session has its evaluator
id (`Doors.Moves.covered`); the registry has one place for each id, so that another one would take it.
Once the shutdown is over nothing is registered and nothing listed, and a session that is covered is closed.
-/

namespace PklHost.Hub

/-! ## Phases -/

/-- The reason for which a connection is closed. -/
def Phase.reason? : Phase → Option CloseReason
  | .isOpen => none
  | .closing reason _ | .closed reason => some reason

/-- The sessions that are still to be failed. -/
def Phase.left : Phase → List Nat
  | .closing _ (.failingSessions left) => left
  | .isOpen | .closing _ .failingCreates | .closing _ .drainingRegistry | .closed _ => []

/-- The requests to create have been failed. -/
def Phase.PastCreates : Phase → Prop
  | .closing _ .drainingRegistry | .closing _ (.failingSessions _) | .closed _ => True
  | .isOpen | .closing _ .failingCreates => False

/-- The registry has been drained. -/
def Phase.PastRegistry : Phase → Prop
  | .closing _ (.failingSessions _) | .closed _ => True
  | .isOpen | .closing _ .failingCreates | .closing _ .drainingRegistry => False

/-! ## What can happen -/

/-- What a shutdown closes. -/
structure Doors where
  phase : Phase
  createsClosed : Bool
  /-- The evaluator id of each session, and whether it is closed. -/
  sessions : List (Int64 × Bool)
  registry : List (Int64 × Nat)

namespace Doors

/-- The evaluator ids of the sessions. -/
def ids (d : Doors) : List Int64 := d.sessions.map Prod.fst

def Closed (d : Doors) (s : Nat) : Prop :=
  ∃ id, d.sessions[s]? = some (id, true)

def closeSession (s : Nat) (d : Doors) : Doors :=
  { d with sessions := d.sessions.modify s fun session => (session.1, true) }

/-- The registry has no entry for an evaluator id. -/
def unregister (id : Int64) (d : Doors) : Doors :=
  { d with registry := d.registry.filter fun r => r.1 != id }

/-- What one step can do, where some sessions are about to be taken off the registry. -/
inductive Moves (Leaves : Nat → Prop) (d : Doors) : Doors → Prop
  | stays : Moves Leaves d d
  /-- A session is entered, and registered in place of any other of its id. -/
  | enters (id : Int64) (hopen : d.phase = .isOpen) :
      Moves Leaves d { d with
        sessions := d.sessions ++ [(id, false)]
        registry := (d.unregister id).registry ++ [(id, d.sessions.length)] }
  | closes (s : Nat) : Moves Leaves d (d.closeSession s)
  | unregisters {s : Nat} {id : Int64} (hleaves : Leaves s) (hid : d.ids[s]? = some id) :
      Moves Leaves d (d.unregister id)
  | begins (reason : CloseReason) (hopen : d.phase = .isOpen) :
      Moves Leaves d { d with phase := .closing reason .failingCreates }
  | failsCreates {reason : CloseReason} (hphase : d.phase = .closing reason .failingCreates) :
      Moves Leaves d { d with phase := .closing reason .drainingRegistry, createsClosed := true }
  | drains {reason : CloseReason} (hphase : d.phase = .closing reason .drainingRegistry) :
      Moves Leaves d { d with
        phase := .closing reason (.failingSessions (d.registry.map Prod.snd))
        registry := [] }
  | failsSession {reason : CloseReason} {s : Nat} {left : List Nat}
      (hphase : d.phase = .closing reason (.failingSessions (s :: left))) :
      Moves Leaves d { d.closeSession s with phase := .closing reason (.failingSessions left) }
  | ends {reason : CloseReason} (hphase : d.phase = .closing reason (.failingSessions [])) :
      Moves Leaves d { d with phase := .closed reason }

variable {Leaves : Nat → Prop} {d d' : Doors} {s : Nat} {id : Int64}

theorem Moves.mono {Leaves' : Nat → Prop} (h : d.Moves Leaves d') (hmore : ∀ s, Leaves s → Leaves' s) :
    d.Moves Leaves' d' := by
  cases h with
  | stays => exact .stays
  | enters id hopen => exact .enters id hopen
  | closes s => exact .closes s
  | unregisters hleaves hid => exact .unregisters (hmore _ hleaves) hid
  | begins reason hopen => exact .begins reason hopen
  | failsCreates hphase => exact .failsCreates hphase
  | drains hphase => exact .drains hphase
  | failsSession hphase => exact .failsSession hphase
  | ends hphase => exact .ends hphase

/-! ## Sessions -/

theorem ids_closeSession (s : Nat) (d : Doors) : (d.closeSession s).ids = d.ids := by
  unfold ids closeSession
  apply List.ext_getElem?
  intro j
  simp only [List.getElem?_map, List.getElem?_modify]
  cases d.sessions[j]? with
  | none => rfl
  | some session => by_cases hj : s = j <;> simp [hj]

theorem length_ids (d : Doors) : d.ids.length = d.sessions.length := by
  unfold ids
  rw [List.length_map]

theorem closed_closeSession (hs : s < d.sessions.length) : (d.closeSession s).Closed s := by
  refine ⟨(d.sessions[s]).1, ?_⟩
  unfold closeSession
  rw [List.getElem?_modify_eq, List.getElem?_eq_getElem hs]
  rfl

/-- What is closed stays closed. -/
theorem Closed.closeSession (h : d.Closed s) (other : Nat) : (d.closeSession other).Closed s := by
  obtain ⟨id, hsession⟩ := h
  refine ⟨id, ?_⟩
  unfold Doors.closeSession
  rw [List.getElem?_modify, hsession]
  by_cases hs : other = s <;> simp [hs]

theorem Moves.closed (h : d.Moves Leaves d') (hclosed : d.Closed s) : d'.Closed s := by
  cases h with
  | enters id hopen =>
      obtain ⟨id', hsession⟩ := hclosed
      exact ⟨id', by rw [List.getElem?_append_left (List.getElem?_eq_some_iff.1 hsession).1, hsession]⟩
  | closes other => exact hclosed.closeSession other
  | @failsSession reason other left hphase => exact hclosed.closeSession other
  | _ => exact hclosed

/-- Sessions stay, with their evaluator ids, and new ones are added behind them. -/
theorem Moves.ids (h : d.Moves Leaves d') : d'.ids = d.ids ∨
    d.phase = .isOpen ∧ ∃ id, d'.ids = d.ids ++ [id] := by
  cases h with
  | enters id hopen => exact .inr ⟨hopen, id, by simp [Doors.ids]⟩
  | closes other => exact .inl (ids_closeSession other d)
  | @failsSession reason other left hphase => exact .inl (ids_closeSession other d)
  | _ => exact .inl rfl

theorem Moves.getElem?_ids (h : d.Moves Leaves d') (hid : d.ids[s]? = some id) :
    d'.ids[s]? = some id := by
  rcases h.ids with hsame | ⟨-, new, hmore⟩
  · rw [hsame, hid]
  · rw [hmore, List.getElem?_append_left (List.getElem?_eq_some_iff.1 hid).1, hid]

/-! ## Phases -/

/-- The first reason stands. -/
theorem Moves.reason (h : d.Moves Leaves d') {reason : CloseReason}
    (hreason : d.phase.reason? = some reason) : d'.phase.reason? = some reason := by
  cases h with
  | begins other hopen =>
      rw [hopen] at hreason
      cases hreason
  | failsCreates hphase | drains hphase | failsSession hphase | ends hphase =>
      rw [hphase] at hreason
      exact hreason
  | _ => exact hreason

/-- A connection that is closed stays so, and is given no more sessions. -/
theorem Moves.of_closed (h : d.Moves Leaves d') {reason : CloseReason}
    (hphase : d.phase = .closed reason) : d'.phase = .closed reason ∧ d'.ids = d.ids := by
  cases h with
  | enters _ hopen | begins _ hopen =>
      rw [hphase] at hopen
      cases hopen
  | failsCreates hother | drains hother | failsSession hother | ends hother =>
      rw [hphase] at hother
      cases hother
  | closes other => exact ⟨hphase, ids_closeSession other d⟩
  | _ => exact ⟨hphase, rfl⟩

/-! ## What holds at every point of a shutdown -/

/-- What the shutdown is done with is closed or empty, and a session is registered under its own id. -/
structure Guarded (d : Doors) : Prop where
  creates : d.phase.PastCreates → d.createsClosed = true
  registry : d.phase.PastRegistry → d.registry = []
  registered : ∀ {id : Int64} {s : Nat}, (id, s) ∈ d.registry → d.ids[s]? = some id

theorem mem_unregister {r : Int64 × Nat} :
    r ∈ (d.unregister id).registry ↔ r ∈ d.registry ∧ r.1 ≠ id := by
  simp [unregister]

theorem Moves.guarded (h : d.Moves Leaves d') (hguarded : d.Guarded) : d'.Guarded := by
  have hregistered : ∀ {id s}, (id, s) ∈ d.registry → d'.ids[s]? = some id :=
    fun hmem => h.getElem?_ids (hguarded.registered hmem)
  cases h with
  | stays => exact hguarded
  | enters new hopen =>
      refine ⟨fun hpast => ?_, fun hpast => ?_, fun {id s} hmem => ?_⟩
      · rw [hopen] at hpast
        exact hpast.elim
      · rw [hopen] at hpast
        exact hpast.elim
      · rcases List.mem_append.1 hmem with hold | hnew
        · exact hregistered (mem_unregister.1 hold).1
        -- the new entry leads to the place that the session takes
        · obtain ⟨rfl, rfl⟩ := Prod.mk.inj (List.mem_singleton.1 hnew)
          simp [Doors.ids]
  | closes other => exact ⟨hguarded.creates, hguarded.registry, hregistered⟩
  | @unregisters s id hleaves hid =>
      refine ⟨hguarded.creates, fun hpast => ?_, fun hmem => hregistered (mem_unregister.1 hmem).1⟩
      unfold Doors.unregister
      rw [hguarded.registry hpast]
      rfl
  | begins reason hopen => exact ⟨fun hpast => hpast.elim, fun hpast => hpast.elim, hregistered⟩
  | failsCreates hphase => exact ⟨fun _ => rfl, fun hpast => hpast.elim, hregistered⟩
  | drains hphase =>
      have hcreates : d.createsClosed = true := hguarded.creates (by rw [hphase]; trivial)
      exact ⟨fun _ => hcreates, fun _ => rfl, fun hmem => absurd hmem List.not_mem_nil⟩
  | failsSession hphase | ends hphase =>
      have hcreates : d.createsClosed = true := hguarded.creates (by rw [hphase]; trivial)
      have hregistry : d.registry = [] := hguarded.registry (by rw [hphase]; trivial)
      exact ⟨fun _ => hcreates, fun _ => hregistry, hregistered⟩

/-! ## No session is missed -/

/-- No other session has the evaluator id of this one. -/
def Alone (d : Doors) (s : Nat) : Prop :=
  ∀ s' id, d.ids[s]? = some id → d.ids[s']? = some id → s' = s

theorem Moves.alone (h : d.Moves Leaves d') (halone : d'.Alone s) : d.Alone s :=
  fun s' id hid hid' => halone s' id (h.getElem?_ids hid) (h.getElem?_ids hid')

/-- A session is closed, or registered, or still to be failed. -/
inductive Covered (d : Doors) (s : Nat) : Prop
  | closed (h : d.Closed s)
  | registered {id : Int64} (h : (id, s) ∈ d.registry)
  | listed (h : s ∈ d.phase.left)

/-- While no session is still to be failed, one that is covered is closed or registered. -/
theorem Covered.closed_or_registered (h : d.Covered s) (hleft : d.phase.left = []) :
    d.Closed s ∨ ∃ id, (id, s) ∈ d.registry := by
  cases h with
  | closed h => exact .inl h
  | registered hmem => exact .inr ⟨_, hmem⟩
  | listed h =>
      rw [hleft] at h
      cases h

/-- Taking an evaluator id off the registry leaves the sessions covered that have another one. -/
theorem Covered.unregister (h : d.Covered s) (hguarded : d.Guarded) (hother : d.ids[s]? ≠ some id) :
    (d.unregister id).Covered s := by
  cases h with
  | closed h => exact .closed h
  | @registered own hmem =>
      refine .registered (mem_unregister.2 ⟨hmem, ?_⟩)
      rintro rfl
      exact hother (hguarded.registered hmem)
  | listed h => exact .listed h

/-- Whatever happens, a session stays covered as long as neither the session that is entered nor one that
is taken off the registry has its evaluator id, and one that is entered is covered from the start. -/
theorem Moves.covered_of_unshared (h : d.Moves Leaves d') (hguarded : d.Guarded)
    (hleaves : ∀ s, Leaves s → d.Closed s)
    (hentering : ∀ id, d'.ids = d.ids ++ [id] → s < d.sessions.length → d.ids[s]? ≠ some id)
    (hleaving : ∀ s' id, Leaves s' → d.ids[s']? = some id → d.ids[s]? = some id → s' = s)
    (hs : s < d'.sessions.length) (hcovered : s < d.sessions.length → d.Covered s) :
    d'.Covered s := by
  have hmoves := h
  cases h with
  | stays => exact hcovered hs
  | enters new hopen =>
      by_cases hold : s < d.sessions.length
      · have hnew : Doors.ids { d with
            sessions := d.sessions ++ [(new, false)]
            registry := (d.unregister new).registry ++ [(new, d.sessions.length)] } =
            d.ids ++ [new] := by
          simp [Doors.ids]
        cases (hcovered hold).unregister hguarded (hentering new hnew hold) with
        | closed h => exact .closed (hmoves.closed h)
        | registered hmem => exact .registered (List.mem_append_left _ hmem)
        | listed h => exact .listed h
      · have hlength : s < (d.sessions ++ [(new, false)]).length := hs
        rw [List.length_append, List.length_singleton] at hlength
        obtain rfl : s = d.sessions.length := by omega
        exact .registered (List.mem_append_right _ (List.mem_singleton.2 rfl))
  | closes other =>
      have hlength : s < d.sessions.length := by simpa [closeSession] using hs
      cases hcovered hlength with
      | closed h => exact .closed (h.closeSession other)
      | registered hmem => exact .registered hmem
      | listed h => exact .listed h
  | @unregisters leaving id hleaving' hid =>
      by_cases hown : s = leaving
      · subst hown
        exact .closed (hleaves s hleaving')
      · refine (hcovered hs).unregister hguarded fun hid' => ?_
        exact hown (hleaving leaving id hleaving' hid hid').symm
  | begins _ hphase | failsCreates hphase =>
      rcases (hcovered hs).closed_or_registered (by rw [hphase]; rfl) with h | ⟨id, hmem⟩
      · exact .closed h
      · exact .registered hmem
  | drains hphase =>
      rcases (hcovered hs).closed_or_registered (by rw [hphase]; rfl) with h | ⟨id, hmem⟩
      · exact .closed h
      · exact .listed (List.mem_map_of_mem hmem)
  | @failsSession reason first left hphase =>
      have hlength : s < d.sessions.length := by simpa [closeSession] using hs
      cases hcovered hlength with
      | closed h => exact .closed (h.closeSession first)
      | registered hmem => exact .registered hmem
      | listed h =>
          rw [hphase] at h
          rcases List.mem_cons.1 h with rfl | hleft
          · exact .closed (closed_closeSession hlength)
          · exact .listed hleft
  | ends hphase =>
      rcases (hcovered hs).closed_or_registered (by rw [hphase]; rfl) with h | ⟨id, hmem⟩
      · exact .closed h
      · exact .registered hmem

/-- Whatever happens, a session that shares its evaluator id with no other one stays covered. -/
theorem Moves.covered (h : d.Moves Leaves d') (hguarded : d.Guarded)
    (hleaves : ∀ s, Leaves s → d.Closed s) (halone : d'.Alone s) (hs : s < d'.sessions.length)
    (hcovered : s < d.sessions.length → d.Covered s) : d'.Covered s := by
  refine h.covered_of_unshared hguarded hleaves (fun id hids hold hid => ?_) ?_ hs hcovered
  · have hsame := halone d.sessions.length id (h.getElem?_ids hid) (by rw [hids, ← length_ids]; simp)
    omega
  · intro s' id _ hid' hid
    exact h.alone halone s' id hid hid'

/-- Once the shutdown is over, a session that is covered is closed. -/
theorem Covered.closed_of_down (h : d.Covered s) (hguarded : d.Guarded) {reason : CloseReason}
    (hphase : d.phase = .closed reason) : d.Closed s := by
  cases h with
  | closed h => exact h
  | registered hmem =>
      rw [hguarded.registry (by rw [hphase]; trivial)] at hmem
      cases hmem
  | listed h =>
      rw [hphase] at h
      cases h

/-- As long as the connection is open, a session that is covered is registered until it is closed. -/
theorem Covered.registered_of_open (h : d.Covered s) (hphase : d.phase = .isOpen)
    (hclosed : ¬ d.Closed s) : ∃ id, (id, s) ∈ d.registry := by
  cases h with
  | closed h => exact absurd h hclosed
  | registered hmem => exact ⟨_, hmem⟩
  | listed h =>
      rw [hphase] at h
      cases h

end Doors

end PklHost.Hub
