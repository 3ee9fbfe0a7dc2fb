import DriverHub.Proofs.Hub.Account
import DriverHub.Proofs.Hub.Run

/-! The account of every lane agrees with the lane. The account is read off the journal and the lane off
the tables, so this ties what a hub remembers to what it did. -/
namespace DriverHub

open Function

variable {config : Config} {τ γ ι H : Type}

/-- The account agrees with a lane of an entry in this state. -/
structure Account.Fits {n : Nat} (a : Account) (state : Occupant H) (lane : Lane n) : Prop where
  head : lane.head = UInt32.ofNat a.number
  bookings : a.inFlight.map (fun x => (x.2.kind?, x.2.carried)) =
    lane.bookings.map fun b => (some b.kind, b.grants.present)
  numbered : a.inFlight.map Prod.fst = List.range' a.number a.inFlight.length
  flown : a.inFlight ⊆ a.issued
  ids : ∀ x ∈ a.issued, x.2.number = UInt32.ofNat x.1
  increasing : a.issued.Pairwise fun x y => x.1 < y.1
  -- A number that was given out lies below the next one to be given out. The one exception is the
  -- number of an init request that is not answered yet, or whose driver is gone.
  below : ∀ x ∈ a.issued, x.1 < a.number + a.inFlight.length ∨
    x.1 = a.number ∧ (state = .free ∨ a.awaited = some x.1)
  awaited : ∀ u, a.awaited = some u → state.isPending = true ∧ u = a.number
  idle : state.isActive = false → lane.bookings = []
  recent : state.isActive = true → ∃ done, a.posted = done ++ a.inFlight.map Prod.snd ∧
    done.map Request.kind? = a.results.map fun result => some result.1

namespace Account.Fits

variable {n : Nat} {a : Account} {state : Occupant H} {lane : Lane n}

theorem length_inFlight (h : a.Fits state lane) : a.inFlight.length = lane.bookings.length := by
  have hlength := congrArg List.length h.bookings
  rwa [List.length_map, List.length_map] at hlength

theorem inFlight_eq_nil (h : a.Fits state lane) (hstate : state.isActive = false) :
    a.inFlight = [] := by
  refine List.length_eq_zero_iff.mp ?_
  rw [h.length_inFlight, h.idle hstate, List.length_nil]

theorem le_of_mem_issued (h : a.Fits state lane) {x : Nat × Request} (hx : x ∈ a.issued) :
    x.1 ≤ a.number + a.inFlight.length := by
  rcases h.below x hx with hlt | ⟨heq, -⟩
  · exact Nat.le_of_lt hlt
  · omega

theorem new (head : UInt32) : (Account.new head.toNat).Fits (.free : Occupant H)
    (⟨head, 0, []⟩ : Lane n) where
  head := by
    change head = UInt32.ofNat (head.toNat + 0 + 0 + 0 + 0)
    simp
  bookings := rfl
  numbered := rfl
  flown := List.nil_subset _
  ids _ hx := nomatch hx
  increasing := .nil
  below _ hx := nomatch hx
  awaited _ hu := nomatch hu
  idle _ := rfl
  recent hactive := nomatch hactive

theorem cancel (h : a.Fits state lane) : a.cancel.Fits (.free : Occupant H) lane.clear := by
  have hnumber : a.cancel.number = a.number + a.inFlight.length := by
    simp only [Account.cancel, number]
    omega
  have hlength : a.cancel.inFlight.length = 0 := rfl
  refine ⟨?head, rfl, rfl, List.nil_subset _, h.ids, h.increasing, ?below, nofun, fun _ => rfl,
    nofun⟩
  case head =>
    rw [hnumber, h.length_inFlight, UInt32.ofNat_add, ← h.head]
    rfl
  case below =>
    intro x hx
    -- Only the number of an unanswered init request can be as high as the new number.
    rw [hnumber, hlength, Nat.add_zero]
    rcases Nat.lt_or_eq_of_le (h.le_of_mem_issued hx) with hlt | heq
    · exact .inl hlt
    · exact .inr ⟨heq, .inl rfl⟩

/-- While the driver is active, the number behind the last request in flight is fresh. -/
theorem lt_of_active (h : a.Fits state lane) (hstate : state.isActive = true) {x : Nat × Request}
    (hx : x ∈ a.issued) : x.1 < a.number + a.inFlight.length := by
  rcases h.below x hx with hlt | ⟨-, rfl | hawaited⟩
  · exact hlt
  · cases hstate
  · obtain ⟨hpending, -⟩ := h.awaited _ hawaited
    cases state <;> cases hstate
    cases hpending

theorem begin (h : a.Fits (.free : Occupant H) lane) (direction : Direction)
    {request : Request} (hrequest : direction = .send → request.number = lane.begin.head)
    (hstate : state.isPending = true) :
    (a.begin direction request).Fits state lane.begin := by
  have hnil : a.inFlight = [] := h.inFlight_eq_nil rfl
  have hactive : state.isActive = false := Occupant.isActive_of_isPending hstate
  -- The lane moves on by one, so what was given out before lies below its new number.
  have hold (x : Nat × Request) (hx : x ∈ a.issued) : x.1 < a.number + 1 := by
    have hle := h.le_of_mem_issued hx
    rw [hnil, List.length_nil] at hle
    omega
  have hnumber : (a.begin direction request).number = a.number + 1 := by
    cases direction <;> simp only [Account.begin, number] <;> omega
  have hhead : lane.begin.head = UInt32.ofNat (a.number + 1) := by
    rw [UInt32.ofNat_add, ← h.head]
    rfl
  have hinFlight : (a.begin direction request).inFlight = [] := by
    rw [← hnil]
    cases direction <;> rfl
  have hbookings : lane.begin.bookings = [] := h.idle rfl
  refine ⟨?head, ?bookings, ?numbered, ?flown, ?ids, ?increasing, ?below, ?awaited,
    fun _ => hbookings, ?recent⟩
  case head =>
    rw [hnumber, hhead]
  case bookings =>
    rw [hinFlight, hbookings]
    rfl
  case numbered =>
    rw [hinFlight]
    rfl
  case flown =>
    rw [hinFlight]
    exact List.nil_subset _
  case ids =>
    cases direction with
    | send =>
      intro x hx
      rcases List.mem_append.mp hx with hx | hx
      · exact h.ids x hx
      · rw [List.mem_singleton.mp hx, hrequest rfl, hhead, ← hnumber]
        rfl
    | receive => exact h.ids
  case increasing =>
    cases direction with
    | send =>
      refine List.pairwise_append.mpr ⟨h.increasing, List.pairwise_singleton .., ?_⟩
      intro x hx y hy
      rw [List.mem_singleton.mp hy]
      exact lt_of_lt_of_eq (hold x hx) hnumber.symm
    | receive => exact h.increasing
  case below =>
    rw [hnumber, hinFlight, List.length_nil, Nat.add_zero]
    cases direction with
    | send =>
      intro x hx
      rcases List.mem_append.mp hx with hx | hx
      · exact .inl (hold x hx)
      · rw [List.mem_singleton.mp hx]
        exact .inr ⟨hnumber, .inr rfl⟩
    | receive => exact fun x hx => .inl (hold x hx)
  case awaited =>
    cases direction with
    | send =>
      intro u hu
      exact ⟨hstate, (Option.some.inj hu).symm⟩
    | receive =>
      intro u hu
      obtain ⟨hpending, -⟩ := h.awaited u hu
      cases hpending
  case recent =>
    rw [hactive]
    exact nofun

theorem activate (h : a.Fits state lane) (hstate : state.isActive = false) (limit : Nat)
    (state' : Occupant H) : a.activate.Fits state' (lane.activate limit) := by
  -- Nothing is in flight, so the lane starts over: nothing was posted since the activation.
  have hnil : a.activate.inFlight = [] := h.inFlight_eq_nil hstate
  have hnumber : a.activate.number = a.number + 1 := by
    simp only [Account.activate, number]
    omega
  have hbookings : (lane.activate limit).bookings = [] := h.idle hstate
  refine ⟨?head, ?bookings, ?numbered, ?flown, h.ids, h.increasing, fun x hx => .inl ?below, nofun,
    fun _ => hbookings, fun _ => ⟨[], ?recent, rfl⟩⟩
  case head =>
    rw [hnumber, UInt32.ofNat_add, ← h.head]
    rfl
  case bookings =>
    rw [hnil, hbookings]
    rfl
  case numbered =>
    rw [hnil]
    rfl
  case flown =>
    rw [hnil]
    exact List.nil_subset _
  case below =>
    have hle := h.le_of_mem_issued hx
    rw [h.inFlight_eq_nil hstate, List.length_nil] at hle
    rw [hnumber]
    omega
  case recent =>
    rw [hnil]
    rfl

theorem issue (h : a.Fits state lane) (hstate : state.isActive = true) {request : Request}
    {kind : RequestKind} {grants : List GrantId} (b : Booking n)
    (hcarries : request.Carries kind (lane.head + UInt32.ofNat lane.bookings.length) grants)
    (hkind : b.kind = kind) (hgrants : b.grants.present = grants) :
    (a.issue request).Fits state (lane.push b) := by
  -- The request gets the number behind those in flight, which is fresh while the driver is active.
  have hlength := h.length_inFlight
  have hissued : (a.issue request).inFlight.length = a.inFlight.length + 1 := List.length_append ..
  have hid : request.number = UInt32.ofNat (a.number + a.inFlight.length) := by
    rw [hcarries.number, UInt32.ofNat_add, ← h.head, hlength]
  refine ⟨h.head, ?bookings, ?numbered, ?flown, ?ids, ?increasing, ?below, h.awaited, ?idle,
    ?recent⟩
  case bookings =>
    simp only [Account.issue, Lane.push, List.map_append, h.bookings, List.map_cons, List.map_nil,
      hcarries.kind, hcarries.carried, hkind, hgrants]
  case numbered =>
    rw [hissued, List.range'_concat, Nat.one_mul]
    simp only [Account.issue, List.map_append, h.numbered]
    rfl
  case flown =>
    intro x hx
    rcases List.mem_append.mp hx with hx | hx
    · exact List.mem_append_left _ (h.flown hx)
    · exact List.mem_append_right _ hx
  case ids =>
    intro x hx
    rcases List.mem_append.mp hx with hx | hx
    · exact h.ids x hx
    · rw [List.mem_singleton.mp hx]
      exact hid
  case increasing =>
    refine List.pairwise_append.mpr ⟨h.increasing, List.pairwise_singleton .., ?_⟩
    intro x hx y hy
    rw [List.mem_singleton.mp hy]
    exact h.lt_of_active hstate hx
  case below =>
    intro x hx
    left
    rw [hissued]
    rcases List.mem_append.mp hx with hx | hx
    · exact Nat.lt_succ_of_lt (h.lt_of_active hstate hx)
    · rw [List.mem_singleton.mp hx]
      exact Nat.lt_succ_self _
  case idle =>
    intro hidle
    rw [hstate] at hidle
    cases hidle
  case recent =>
    intro _
    obtain ⟨done, hposted, hdone⟩ := h.recent hstate
    refine ⟨done, ?_, hdone⟩
    simp only [Account.issue, hposted, List.map_append, List.append_assoc]
    rfl

theorem complete (h : a.Fits state lane) (hstate : state.isActive = true) {b : Booking n}
    {rest : List (Booking n)} (hbookings : lane.bookings = b :: rest) (result : Int32) :
    (a.complete b.kind result).Fits state lane.pop := by
  have hnumber : (a.complete b.kind result).number = a.number + 1 := by
    simp only [Account.complete, number]
    omega
  -- The oldest request in flight is the one in the front of the lane.
  obtain ⟨x, others, hinFlight⟩ : ∃ x others, a.inFlight = x :: others := by
    refine List.exists_cons_of_length_pos ?_
    rw [h.length_inFlight, hbookings]
    exact Nat.succ_pos _
  have hothers : (a.complete b.kind result).inFlight = others := by
    simp only [Account.complete, hinFlight, List.tail_cons]
  have hmap := h.bookings
  have hrange := h.numbered
  rw [hinFlight, hbookings, List.map_cons, List.map_cons] at hmap
  rw [hinFlight, List.map_cons, List.length_cons, List.range'_succ] at hrange
  obtain ⟨holdest, hmap⟩ := List.cons.inj hmap
  obtain ⟨hfirst, hrange⟩ := List.cons.inj hrange
  refine ⟨?head, ?bookings, ?numbered, ?flown, h.ids, h.increasing, ?below, ?awaited, ?idle, ?recent⟩
  case head =>
    rw [hnumber, UInt32.ofNat_add, ← h.head]
    rfl
  case bookings =>
    rw [hothers, hmap, Lane.pop, hbookings]
    rfl
  case numbered =>
    rw [hothers, hrange, hnumber]
  case flown =>
    rw [hothers]
    intro y hy
    refine h.flown ?_
    rw [hinFlight]
    exact List.mem_cons_of_mem _ hy
  case below =>
    intro y hy
    left
    have hlt := h.lt_of_active hstate hy
    rw [hinFlight, List.length_cons] at hlt
    rw [hnumber, hothers]
    omega
  case awaited =>
    intro u hu
    obtain ⟨hpending, -⟩ := h.awaited u hu
    cases state <;> cases hstate
    cases hpending
  case idle =>
    intro hidle
    rw [hstate] at hidle
    cases hidle
  case recent =>
    -- It was posted right behind those that are done.
    intro _
    obtain ⟨done, hposted, hdone⟩ := h.recent hstate
    refine ⟨done ++ [x.2], ?_, ?_⟩
    · rw [hothers, List.append_assoc]
      rw [hinFlight] at hposted
      exact hposted
    · have hkind : x.2.kind? = some b.kind := congrArg Prod.fst holdest
      simp only [Account.complete, List.map_append, hdone, List.map_cons, List.map_nil, hkind]

theorem turn (h : a.Fits state lane) {direction : Direction} {state' : Occupant H}
    {a' : Account} {lane' : Lane n} (hturn : Turn direction state a lane state' a' lane') :
    a'.Fits state' lane' := by
  cases hturn with
  | kept => exact h
  | begun request free pending number =>
    subst free
    exact h.begin direction number pending
  | begunAgain request pending number => exact h.cancel.begin direction number pending
  | closed => exact h.cancel
  | opened limit pending => exact h.activate (Occupant.isActive_of_isPending pending) limit _
  | turnedDown limit pending =>
    have hopened := h.activate (Occupant.isActive_of_isPending pending) limit (.free : Occupant H)
    exact hopened.cancel
  | popped result active oldest => exact h.complete active oldest result

end Account.Fits

/-- Every lane agrees with its account. -/
def View.Agrees (heads : LaneId config → UInt32) (v : View config τ γ ι H) : Prop :=
  ∀ k, (account (heads k) k v.journal).Fits (v.state k.1) (v.lane k)

namespace View

variable [Transport τ] [GrantTable γ] [Interface ι H]
variable {heads : LaneId config → UInt32} {v w : View config τ γ ι H}

theorem Move.agrees (h : v.Agrees heads) (hmove : Move v w) : w.Agrees heads := fun k =>
  (h k).turn (hmove.turns (heads k) k)

omit [Interface ι H] in
theorem Issue.agrees {outcome : Except Refusal UInt32} (h : v.Agrees heads)
    (hissue : Issue v outcome w) : w.Agrees heads := by
  intro k
  have hk := h k
  cases hissue with
  | issued i label endpoint handle slot kind segments request active created few carries sent =>
    dsimp only
    rw [account_posted, account_creates created, update_apply]
    have hposted (a : Account) : a.post k.2 request =
        if kind.direction = k.2 then a.issue request else a := by
      simp only [Account.post, carries.kind]
    by_cases hi : k.1 = i
    · subst hi
      rw [if_pos rfl, hposted]
      by_cases hd : k = (k.1, kind.direction)
      · rw [if_pos hd, if_pos (congrArg Prod.snd hd).symm]
        have hactive : (v.state k.1).isActive = true := by
          rw [active]
          rfl
        rw [← hd] at carries ⊢
        exact hk.issue hactive ⟨slot, kind, .ofList _⟩ carries rfl (SlotGrants.present_ofList few)
      · rw [if_neg hd, if_neg fun he => hd (Prod.ext rfl he.symm)]
        exact hk
    · rw [if_neg hi, if_neg fun he => hi (congrArg Prod.fst he)]
      exact hk
  | abandoned i label endpoint handle access segments active created revoked =>
    rw [account_revocations, account_creates created]
    exact hk

end View

/-- The accounts agree with the lanes of every hub that can be reached. -/
theorem Reachable.agrees [Transport τ] [GrantTable γ] [Interface ι H] {heads : LaneId config → UInt32}
    {custody : Custody γ} {s : HubSession config τ γ ι H} (h : Reachable heads custody s) :
    s.view.Agrees heads := by
  refine h.view_induction (fun transport grants interface _ k => ?_)
    (fun v w hv hmove => hmove.agrees hv) (fun v _ w hv hissue => hissue.agrees hv)
    fun v transport grants interface hv _ => hv
  exact .new (heads k)

end DriverHub
