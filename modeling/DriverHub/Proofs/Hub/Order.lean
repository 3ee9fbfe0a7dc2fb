import DriverHub.Proofs.Hub.Agreement

/-! Requests are finished in the order in which they were posted. What is outstanding by the journal is
what is in flight by the tables, and a reply finishes the oldest of it or nothing. -/
namespace DriverHub

open Function SessionM

variable {config : Config} {τ γ ι H : Type}

/-- The oldest outstanding request has this kind and this number. -/
def Account.Expects (a : Account) (kind : RequestKind) (number : UInt32) : Prop :=
  a.outstanding.head?.map (fun request => (request.kind?, request.number)) =
    some (some kind, number)

namespace Account.Fits

variable {n : Nat} {a : Account} {state : Occupant H} {lane : Lane n}

/-- The requests in flight are of the kinds that their slots record, and carry consecutive numbers
from the head on. -/
theorem kinds_and_numbers (h : a.Fits state lane) :
    a.inFlight.map (fun x => (x.2.kind?, x.2.number)) =
      lane.bookings.mapIdx fun j b => (some b.kind, lane.head + UInt32.ofNat j) := by
  refine List.ext_getElem ?_ fun j hj hj' => ?_
  · rw [List.length_map, List.length_mapIdx, h.length_inFlight]
  · rw [List.length_map] at hj
    rw [List.length_mapIdx] at hj'
    rw [List.getElem_map, List.getElem_mapIdx]
    -- The kind is read at `j` in the slots, the number at `j` in the interval of numbers.
    have hkind := congrArg (fun l => l[j]?.map Prod.fst) h.bookings
    have hnumber := congrArg (fun l => l[j]?) h.numbered
    simp only [List.getElem?_map, List.getElem?_eq_getElem hj, List.getElem?_eq_getElem hj',
      Option.map_some, Option.some.injEq] at hkind
    simp only [List.getElem?_map, List.getElem?_eq_getElem hj, Option.map_some,
      List.getElem?_range' hj, Nat.one_mul, Option.some.injEq] at hnumber
    have hhead : lane.head + UInt32.ofNat j = UInt32.ofNat (a.number + j) := by
      rw [h.head, UInt32.ofNat_add]
    rw [hkind, h.ids _ (h.flown (List.getElem_mem hj)), hnumber, ← hhead]

/-- For an active driver, what is outstanding since its activation is in flight, and what was
finished is what was posted before. -/
theorem outstanding_eq (h : a.Fits state lane) (hstate : state.isActive = true) :
    a.outstanding = a.inFlight.map Prod.snd ∧
      (a.posted.take a.results.length).map Request.kind? =
        a.results.map fun result => some result.1 := by
  obtain ⟨done, hposted, hdone⟩ := h.recent hstate
  have hlength : a.results.length = done.length := by
    have hlengths := congrArg List.length hdone
    rw [List.length_map, List.length_map] at hlengths
    exact hlengths.symm
  rw [Account.outstanding, hposted, hlength, List.drop_left, List.take_left]
  exact ⟨rfl, hdone⟩

/-- A reply answers the oldest request of the lane exactly if it is expected. -/
theorem answers_iff (h : a.Fits state lane) (hstate : state.isActive = true) (kind : RequestKind)
    (number : UInt32) : lane.Answers kind number ↔ a.Expects kind number := by
  have hmap := h.kinds_and_numbers
  -- Both sides are about the first of what is in flight.
  rw [Account.Expects, (h.outstanding_eq hstate).1, ← List.head?_map, List.map_map,
    show (fun request : Request => (request.kind?, request.number)) ∘ Prod.snd =
      fun x : Nat × Request => (x.2.kind?, x.2.number) from rfl, hmap, Lane.Answers]
  cases hbookings : lane.bookings with
  | nil => simp
  | cons b rest =>
    have hzero : lane.head + UInt32.ofNat 0 = lane.head := UInt32.add_zero lane.head
    simp only [List.head?_cons, Option.map_some, Option.some.injEq, List.mapIdx_cons,
      Prod.mk.injEq, hzero]
    exact And.comm

end Account.Fits

namespace Hub

variable [Transport τ] [GrantTable γ] [Interface ι H]
variable {s : HubSession config τ γ ι H} {i : Fin config.drivers}

/-- A reply that answers the oldest request of a lane finishes it: the request leaves with its grants,
and its interface is told the result. This fails only if one of these grants is not revoked. -/
theorem goes_process_finished (h : s.tables.Sound) {sender : Endpoint}
    (hfound : s.tables.findEndpoint sender = some i) {label : Label} {endpoint : Endpoint}
    {handle : H} (hactive : s.tables.state i = .active label endpoint handle) {kind : RequestKind}
    {number : UInt32} (result : Int32)
    (hanswers : (s.tables.lane (i, kind.direction)).Answers kind number) :
    ∃ b rest, s.tables.bookings (i, kind.direction) = b :: rest ∧ b.kind = kind ∧
      (process sender (.finished kind number result) : HubM config τ γ ι H Unit).Goes s
        (fun _ t => ∃ g, Revokes s.grants b.grants.present g ∧ t.view = { s.view with
          lane := update s.view.lane (i, kind.direction) (s.view.lane (i, kind.direction)).pop
          grants := g
          interface := Interface.finished s.interface kind handle result
          journal := .finished ⟨i⟩ kind handle result ::
            (revocations b.grants.present ++ s.journal) })
        fun fatal => ∃ grant cause, RevokesUpTo grant cause s.grants b.grants.present ∧
          fatal = .revocation grant cause := by
  -- The tables lose the request before its grants are revoked, so they are sound even if a revocation
  -- fails.
  rcases h.completed? i kind number with ⟨hnot, -⟩ |
    ⟨b, rest, hub, hbookings, hkind, -, hcompleted, -, -, hstate, hlane⟩
  · exact absurd hanswers hnot
  · refine ⟨b, rest, hbookings, hkind, ?_⟩
    rw [Goes, process_eq_take hfound]
    change Goes (finish i kind number result) _ _ _
    unfold finish
    rw [goes_bind, goes_tables, (h.labelled.driver_eq i).1, hactive]
    dsimp only [Occupant.driverState]
    rw [hcompleted, goes_bind, goes_expect, goes_bind, goes_setTables, goes_bind]
    refine goes_revokeGrants (fun g hg => ⟨g, hg, Session.view_eq hstate hlane⟩)
      fun grant cause hg => ⟨grant, cause, hg, rfl⟩

end Hub

variable [Transport τ] [GrantTable γ] [Interface ι H]
variable {heads : LaneId config → UInt32} {custody : Custody γ} {s : HubSession config τ γ ι H}

/-- Requests are finished first in, first out. For an active driver, the requests posted on one of its
queues since its activation and not yet finished are, in order, those in flight: of the kinds that
their slots record, numbered from the head on, as many as the depth says. A reply finishes the oldest
of them if it has its kind and its number, and is only noted otherwise. -/
theorem Reachable.first_in_first_out (h : Reachable heads custody s) {i : Fin config.drivers}
    {label : Label} {endpoint : Endpoint} {handle : H}
    (hactive : s.tables.state i = .active label endpoint handle) :
    (∀ d,
      let a := account (heads (i, d)) (i, d) s.journal
      let queue := s.tables.queues (i, d)
      a.outstanding.map (fun request => (request.kind?, request.number)) =
        (s.tables.bookings (i, d)).mapIdx
          (fun j b => (some b.kind, queue.head + UInt32.ofNat j)) ∧
      a.outstanding.length = queue.depth ∧ queue.depth ≤ queue.limit ∧
      a.results.map (fun result => some result.1) =
        (a.posted.take a.results.length).map Request.kind?) ∧
    ∀ sender kind number result, s.tables.findEndpoint sender = some i →
      let k := (i, kind.direction)
      let a := account (heads k) k s.journal
      (a.Expects kind number →
        ∃ b rest, s.tables.bookings k = b :: rest ∧ b.kind = kind ∧
          (Hub.process sender (.finished kind number result) : HubM config τ γ ι H Unit).Goes s
            (fun _ t => ∃ g, Revokes s.grants b.grants.present g ∧ t.view = { s.view with
              lane := update s.view.lane k (s.view.lane k).pop
              grants := g
              interface := Interface.finished s.interface kind handle result
              journal := .finished ⟨i⟩ kind handle result ::
                (revocations b.grants.present ++ s.journal) })
            fun fatal => ∃ grant cause, RevokesUpTo grant cause s.grants b.grants.present ∧
              fatal = .revocation grant cause) ∧
      (¬a.Expects kind number →
        (Hub.process sender (.finished kind number result) : HubM config τ γ ι H Unit) s =
          .ok () { s with journal := .noticed (.staleReply kind number) :: s.journal }) := by
  have hstate : (s.view.state i).isActive = true := by
    change (s.tables.state i).isActive = true
    rw [hactive]
    rfl
  constructor
  · intro d a queue
    have hfits := h.agrees (i, d)
    obtain ⟨houtstanding, hresults⟩ := hfits.outstanding_eq hstate
    have hdepth : (s.tables.bookings (i, d)).length = (s.tables.queues (i, d)).depth :=
      h.sound.length_bookings (i, d)
    refine ⟨?_, ?_, ?_, hresults.symm⟩
    · refine Eq.trans ?_ hfits.kinds_and_numbers
      refine (congrArg _ houtstanding).trans ?_
      rw [List.map_map]
      rfl
    · refine (congrArg _ houtstanding).trans ?_
      rw [List.length_map, hfits.length_inFlight, ← hdepth]
      rfl
    · rw [← hdepth]
      exact h.sound.bounded (i, d)
  · intro sender kind number result hfound k a
    have hiff := (h.agrees (i, kind.direction)).answers_iff hstate kind number
    refine ⟨fun hexpects => ?_, fun hexpects => ?_⟩
    · exact Hub.goes_process_finished h.sound hfound hactive result (hiff.mpr hexpects)
    · exact Hub.process_finished_stale h.sound hfound hstate result
        fun hanswers => hexpects (hiff.mp hanswers)

/-- In the short run, two requests are outstanding, and a reply to the second one finishes nothing. -/
theorem Trial.late_reply_noted :
    session.tables.state entry = .active label ⟨5⟩ 1 ∧
    (account (Trial.heads (entry, .send)) (entry, .send) session.journal).outstanding.map
      (fun request => (request.kind?, request.number)) = [(some .send, 1), (some .send, 2)] ∧
    (Hub.process ⟨5⟩ (.finished .send 2 60) : HubM small Outbox GrantLedger CallbackLog Nat Unit)
      session = .ok () { session with
        journal := .noticed (.staleReply .send 2) :: session.journal } := by
  have h := Reachable.first_in_first_out reached active
  refine ⟨active, (h.1 .send).1.trans (by decide +kernel), ?_⟩
  exact (h.2 ⟨5⟩ .send 2 60 (by decide +kernel)).2 (by unfold Account.Expects; decide +kernel)

end DriverHub
