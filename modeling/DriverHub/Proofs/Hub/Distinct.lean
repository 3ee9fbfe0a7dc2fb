import DriverHub.Proofs.Hub.Handshake
import DriverHub.Proofs.Hub.Table

/-! Numbers of different lanes never meet. The first numbers of the lanes are spread so far that each lane
has 2²⁰ numbers of its own, so while none has used them up, all requests handed over have different
numbers. -/
namespace DriverHub

open Finset

variable {config : Config} {τ γ ι H : Type}

theorem Config.Valid.drivers_le (h : config.Valid) : config.drivers ≤ 2048 := by
  unfold Config.Valid Config.fault? at h
  split at h
  · cases h
  · split at h
    · cases h
    · rename_i hmany
      simpa only [Config.driverLimit, UInt64.lt_iff_toNat_lt, not_lt, UInt64.reduceToNat] using hmany

namespace Hub

/-- Number at which a lane of a new hub begins. -/
def firstNumber (k : LaneId config) : UInt32 :=
  match k.2 with
  | .send => sendStart k.1
  | .receive => receiveStart k.1

/-- How many lanes begin at a smaller number. -/
def rank (k : LaneId config) : Nat :=
  match k.2 with
  | .send => 2 * k.1
  | .receive => 2 * k.1 + 1

theorem rank_injective : Function.Injective (rank : LaneId config → Nat) := by
  rintro ⟨i, d⟩ ⟨j, e⟩ heq
  cases d <;> cases e <;> simp only [rank] at heq
  · rw [Fin.ext (by omega : i.val = j.val)]
  · omega
  · omega
  · rw [Fin.ext (by omega : i.val = j.val)]

theorem rank_lt (hvalid : config.Valid) (k : LaneId config) : rank k < 2 ^ 12 := by
  have hdrivers := hvalid.drivers_le
  have hk := k.1.isLt
  unfold rank
  split <;> omega

/-- The first numbers are multiples of 2²⁰, and computing them does not wrap. -/
theorem toNat_firstNumber (hvalid : config.Valid) (k : LaneId config) :
    (firstNumber k).toNat = rank k * 2 ^ 20 := by
  have hdrivers := hvalid.drivers_le
  obtain ⟨⟨i, hi⟩, d⟩ := k
  cases d with
  | send =>
    simp only [firstNumber, sendStart, rank, UInt32.toNat_shiftLeft, UInt32.toNat_ofNat',
      UInt32.reduceToNat, Nat.shiftLeft_eq, Nat.reduceMod, Nat.reducePow]
    omega
  | receive =>
    simp only [firstNumber, receiveStart, rank, UInt32.toNat_shiftLeft, UInt32.toNat_add,
      UInt32.toNat_mul, UInt32.toNat_ofNat', UInt32.reduceToNat, Nat.shiftLeft_eq, Nat.reduceMod,
      Nat.reducePow]
    omega

/-- The numbers of different lanes lie at least 2²⁰ apart at first. -/
theorem firstNumber_apart (hvalid : config.Valid) {k k' : LaneId config} (hne : k ≠ k') :
    (firstNumber k).toNat + 2 ^ 20 ≤ (firstNumber k').toNat ∨
      (firstNumber k').toNat + 2 ^ 20 ≤ (firstNumber k).toNat := by
  have hrank : rank k ≠ rank k' := fun heq => hne (rank_injective heq)
  rw [toNat_firstNumber hvalid, toNat_firstNumber hvalid]
  omega

theorem firstNumber_le (hvalid : config.Valid) (k : LaneId config) :
    (firstNumber k).toNat + 2 ^ 20 ≤ 2 ^ 32 := by
  have hrank := rank_lt hvalid k
  rw [toNat_firstNumber hvalid]
  omega

theorem empty_queues_head (k : LaneId config) :
    ((empty config : Hub config H).queues k).head = firstNumber k := by
  rw [empty_eq_startingAt, startingAt_queues]
  rfl

end Hub

/-- The number of a request that was handed over, if it takes one of a lane. -/
def Entry.number? : Entry H → Option UInt32
  | .posted _ _ (.acknowledge _) _ => none
  | .posted _ _ request _ => some request.number
  | _ => none

/-- Numbers of all init, configuration, send and receive requests handed over, the latest first. -/
def postedNumbers (journal : Journal H) : List UInt32 := journal.filterMap Entry.number?

/-- Every request was handed over for a driver of the table, and taken by the transport. -/
def Placed (config : Config) (journal : Journal H) : Prop :=
  ∀ driver endpoint request answer, .posted driver endpoint request answer ∈ journal →
    driver.index < config.drivers ∧ answer = .ok ()

section Journals

variable {journal newer : Journal H}

theorem Placed.append (h : Placed config journal) (hnewer : frames newer = []) :
    Placed config (newer ++ journal) := by
  intro driver endpoint request answer hmem
  rcases List.mem_append.mp hmem with hmem | hmem
  · rw [frames, List.reverse_eq_nil_iff, List.filterMap_eq_nil_iff] at hnewer
    cases hnewer _ hmem
  · exact h driver endpoint request answer hmem

theorem Placed.cons (h : Placed config journal) {entry : Entry H} (hentry : entry.frame? = none) :
    Placed config (entry :: journal) := by
  intro driver endpoint request answer hmem
  rcases List.mem_cons.mp hmem with rfl | hmem
  · cases hentry
  · exact h driver endpoint request answer hmem

theorem Placed.posted (h : Placed config journal) (i : Fin config.drivers) (endpoint : Endpoint)
    (request : Request) : Placed config (.posted ⟨i⟩ endpoint request (.ok ()) :: journal) := by
  intro driver endpoint' request' answer hmem
  rcases List.mem_cons.mp hmem with heq | hmem
  · cases heq
    exact ⟨i.isLt, rfl⟩
  · exact h driver endpoint' request' answer hmem

theorem Placed.hires [Interface ι H] {driver : DriverId} {name : InterfaceName}
    {capabilities : Capabilities} {interface interface' : ι} {journal' : Journal H}
    {handle? : Option H} {handle : H} {isNew : Bool}
    (hires : Hires driver name capabilities interface journal handle? handle isNew interface' journal')
    (h : Placed config journal) : Placed config journal' := by
  cases hires with
  | kept => exact h
  | added => exact h.cons rfl

theorem numbered_posted {i : Fin config.drivers} (k : LaneId config) (endpoint : Endpoint)
    (request : Request) :
    numbered k (.posted ⟨i⟩ endpoint request (.ok ()) :: journal) =
      if k.1 = i ∧ request.isNumbered k.2 then numbered k journal ++ [request]
      else numbered k journal := by
  simp only [numbered, driver_eq_iff]

/-- A request that takes a number takes it on one lane of its driver. -/
theorem exists_lane (i : Fin config.drivers) {endpoint : Endpoint} {request : Request}
    {number : UInt32}
    (h : (.posted ⟨i⟩ endpoint request (.ok ()) : Entry H).number? = some number) :
    request.number = number ∧
      ∃ d, ∀ k : LaneId config, (k.1 = i ∧ request.isNumbered k.2) ↔ k = (i, d) := by
  cases request with
  | init id => exact ⟨Option.some.inj h, .send, fun k => by simp [Request.isNumbered, Prod.ext_iff]⟩
  | configure change =>
    exact ⟨Option.some.inj h, .send, fun k => by simp [Request.isNumbered, Prod.ext_iff]⟩
  | transfer direction t =>
    refine ⟨Option.some.inj h, direction, fun k => ?_⟩
    simp [Request.isNumbered, Prod.ext_iff, eq_comm]
  | acknowledge id => cases h

/-- Every number handed over is on the account of exactly one lane. -/
theorem count_postedNumbers (h : Placed config journal) (number : UInt32) :
    (postedNumbers journal).count number =
      ∑ k : LaneId config, ((numbered k journal).map Request.number).count number := by
  induction journal with
  | nil => simp [postedNumbers, numbered]
  | cons entry journal ih =>
    have ih := ih fun driver endpoint request answer hmem =>
      h driver endpoint request answer (List.mem_cons_of_mem entry hmem)
    cases entry with
    | posted driver endpoint request answer =>
      obtain ⟨hdriver, rfl⟩ := h driver endpoint request answer List.mem_cons_self
      obtain ⟨i, rfl⟩ : ∃ i : Fin config.drivers, driver = ⟨i⟩ := ⟨⟨driver.index, hdriver⟩, rfl⟩
      simp only [numbered_posted, postedNumbers, List.filterMap_cons]
      cases hnumber : (.posted ⟨i⟩ endpoint request (.ok ()) : Entry H).number? with
      | none =>
        cases request with
        | acknowledge id => simpa [postedNumbers, Request.isNumbered] using ih
        | _ => cases hnumber
      | some number' =>
        obtain ⟨rfl, d, hlane⟩ := exists_lane i hnumber
        simp only [hlane, apply_ite (List.map Request.number), apply_ite (List.count number),
          List.map_append, List.count_append, List.map_cons, List.map_nil]
        have hsplit (k : LaneId config) :
            (if k = (i, d) then ((numbered k journal).map Request.number).count number +
                [request.number].count number
              else ((numbered k journal).map Request.number).count number) =
            ((numbered k journal).map Request.number).count number +
              if k = (i, d) then [request.number].count number else 0 := by
          split <;> simp
        simp only [hsplit]
        rw [sum_add_distrib, sum_ite_eq' univ, if_pos (mem_univ _), ← ih, postedNumbers,
          List.count_cons, List.count_singleton]
    | _ => exact ih

end Journals

namespace Account

/-- Every number given out is one of the lane's own, from the first on. -/
def Rising (a : Account) (start : Nat) : Prop := a.start = start ∧ ∀ x ∈ a.issued, start ≤ x.1

theorem Rising.snoc {a : Account} {start : Nat} (h : a.Rising start) {x : Nat × Request}
    (hx : a.start ≤ x.1) {y : Nat × Request} (hy : y ∈ a.issued ++ [x]) : start ≤ y.1 := by
  rcases List.mem_append.mp hy with hy | hy
  · exact h.2 y hy
  · rw [List.mem_singleton.mp hy, ← h.1]
    exact hx

theorem start_le_number (a : Account) : a.start ≤ a.number := by
  unfold number
  omega

theorem Rising.post {a : Account} {start : Nat} (h : a.Rising start) (direction : Direction)
    (request : Request) : (a.post direction request).Rising start := by
  have hissue : (a.issue request).Rising start :=
    ⟨h.1, fun y hy => h.snoc (Nat.le_add_right_of_le a.start_le_number) hy⟩
  have hbegin : (a.begin direction request).Rising start := by
    cases direction with
    | send =>
      refine ⟨h.1, fun y hy => h.snoc ?_ hy⟩
      exact start_le_number { a with inits := a.inits + 1 }
    | receive => exact h
  unfold Account.post
  split
  · split
    · exact hissue
    · exact h
  · split
    · exact hbegin
    · exact h

theorem Rising.enter {a : Account} {start : Nat} (h : a.Rising start) (k : LaneId config)
    (entry : Entry H) : (a.enter k entry).Rising start := by
  unfold Account.enter
  split
  · split
    · exact h.post _ _
    · exact h
  all_goals first
    | exact h
    | split <;> exact h

end Account

theorem account_rising (start : UInt32) (k : LaneId config) (journal : Journal H) :
    (account start k journal).Rising start.toNat := by
  induction journal with
  | nil => exact ⟨rfl, nofun⟩
  | cons entry journal ih => exact ih.enter k entry

section Runs

variable [Transport τ] [GrantTable γ] [Interface ι H]

theorem View.Move.placed {v w : View config τ γ ι H} (h : Placed config v.journal)
    (hmove : View.Move v w) : Placed config w.journal := by
  cases hmove with
  | noted entry quiet =>
    have hplaced := h.append quiet.frames_eq_nil
    exact hplaced
  | started i label endpoint => exact (h.cons rfl).posted i endpoint _
  | restarted i label endpoint =>
    have hrevoked := h.append (frames_revocations (v.grantsAt i))
    have hquieted := hrevoked.append (frames_quieting (v.state i) ⟨i⟩)
    exact (hquieted.cons rfl).posted i endpoint _
  | gone i endpoint =>
    have hrevoked := h.append (frames_revocations (v.grantsAt i))
    have hwithdrawn := hrevoked.append (frames_withdrawing (v.state i) ⟨i⟩)
    exact hwithdrawn.cons rfl
  | turnedAway => exact h.cons rfl
  | activated i label endpoint reply name pending latest checked hires =>
    exact ((Placed.hires hires h).cons rfl).cons rfl
  | refused i label endpoint reply name pending latest checked hires =>
    exact ((((Placed.hires hires h).cons rfl).cons rfl).cons rfl).cons rfl
  | completed i label endpoint handle b rest result =>
    have hrevoked := h.append (frames_revocations b.grants.present)
    exact hrevoked.cons rfl
  | reported => exact h.cons rfl
  | acknowledged i label endpoint => exact h.posted i endpoint _

omit [Interface ι H] in
theorem View.Issue.placed {v w : View config τ γ ι H} {outcome : Except Refusal UInt32}
    (h : Placed config v.journal) (hissue : View.Issue v outcome w) : Placed config w.journal := by
  cases hissue with
  | issued i label endpoint handle slot kind segments request active created =>
    exact (h.append (frames_creates created)).posted i endpoint request
  | abandoned i label endpoint handle access segments active created =>
    exact (h.append (frames_creates created)).append (frames_revocations _)

variable {heads : LaneId config → UInt32} {custody : Custody γ} {s : HubSession config τ γ ι H}

theorem Reachable.placed (h : Reachable heads custody s) : Placed config s.journal :=
  h.view_induction (P := fun v => Placed config v.journal)
    (fun _ _ _ _ _ _ _ _ hmem => by cases List.mem_singleton.mp hmem)
    (fun _ _ hv hmove => hmove.placed hv) (fun _ _ _ hv hissue => hissue.placed hv)
    fun _ _ _ _ hv _ => hv

/-- As long as a lane has used up less than its share, its requests carry numbers of its own, each only
once. -/
theorem Account.Fits.own {n : Nat} {a : Account} {state : Occupant H} {lane : Lane n}
    (hfits : a.Fits state lane) {start : UInt32} (hrising : a.Rising start.toNat)
    (hstart : start.toNat + 2 ^ 20 ≤ 2 ^ 32)
    (hshare : a.completed + a.cancelled + a.inits + a.activations + a.inFlight.length < 2 ^ 20) :
    (∀ x ∈ a.issued, start.toNat ≤ x.2.number.toNat ∧ x.2.number.toNat < start.toNat + 2 ^ 20) ∧
      (a.issued.map fun x => x.2.number).Nodup := by
  have hexact (x : Nat × Request) (hx : x ∈ a.issued) :
      x.2.number.toNat = x.1 ∧ start.toNat ≤ x.1 ∧ x.1 < start.toNat + 2 ^ 20 := by
    have hlow := hrising.2 x hx
    have hhigh := hfits.le_of_mem_issued hx
    rw [Account.number, hrising.1] at hhigh
    rw [hfits.ids x hx, UInt32.toNat_ofNat']
    omega
  constructor
  · intro x hx
    obtain ⟨hnumber, hbounds⟩ := hexact x hx
    rw [hnumber]
    exact hbounds
  · refine List.pairwise_map.mpr (hfits.increasing.imp_of_mem fun {x y} hx hy hlt heq => ?_)
    have hwords := congrArg UInt32.toNat heq
    rw [(hexact x hx).1, (hexact y hy).1] at hwords
    omega

theorem Reachable.nodup_postedNumbers (h : Reachable Hub.firstNumber custody s)
    (hshare : ∀ k, let a := account (Hub.firstNumber k) k s.journal
      a.completed + a.cancelled + a.inits + a.activations + (s.tables.queues k).depth < 2 ^ 20) :
    (postedNumbers s.journal).Nodup := by
  have hvalid := h.valid
  have hissued (k : LaneId config) : ((numbered k s.journal).map Request.number) =
      (account (Hub.firstNumber k) k s.journal).issued.map fun x => x.2.number := by
    rw [← issued_eq_numbered (Hub.firstNumber k), List.map_map]
    rfl
  have hown (k : LaneId config) := by
    have hfits : (account (Hub.firstNumber k) k s.journal).Fits (s.tables.state k.1)
        (s.tables.lane k) := h.agrees k
    have hdepth : (s.tables.queues k).depth =
        (account (Hub.firstNumber k) k s.journal).inFlight.length := by
      rw [hfits.length_inFlight]
      exact (h.sound.length_bookings k).symm
    have hk := hshare k
    rw [hdepth] at hk
    exact hfits.own (account_rising _ k s.journal) (Hub.firstNumber_le hvalid k) hk
  have hrange (k : LaneId config) {number : UInt32}
      (hmem : number ∈ (numbered k s.journal).map Request.number) :
      (Hub.firstNumber k).toNat ≤ number.toNat ∧
        number.toNat < (Hub.firstNumber k).toNat + 2 ^ 20 := by
    rw [hissued] at hmem
    obtain ⟨x, hx, rfl⟩ := List.mem_map.mp hmem
    exact (hown k).1 x hx
  rw [List.nodup_iff_count_le_one]
  intro number
  rw [count_postedNumbers h.placed]
  by_cases hused : ∃ k : LaneId config, number ∈ (numbered k s.journal).map Request.number
  · -- A number in the range of one lane is in that of no other.
    obtain ⟨k, hk⟩ := hused
    rw [sum_eq_single k]
    · rw [hissued]
      exact List.nodup_iff_count_le_one.mp (hown k).2 number
    · intro k' _ hne
      refine List.count_eq_zero.mpr fun hk' => ?_
      have hbounds := hrange k hk
      have hbounds' := hrange k' hk'
      have hapart := Hub.firstNumber_apart hvalid hne
      omega
    · exact fun hout => absurd (mem_univ k) hout
  · rw [sum_eq_zero fun k _ => List.count_eq_zero.mpr fun hk => hused ⟨k, hk⟩]
    exact Nat.zero_le 1

/-- Numbers of different lanes never meet. In a valid configuration the queues of a new hub begin at
numbers at least 2²⁰ apart that are computed without wrapping; the hub is built if its slots can be
counted and there is memory for them. As long as every queue has used up fewer than 2²⁰ numbers, one for
each init, activation, completion and cancellation and one for each request in flight, all init,
configuration, send and receive requests ever posted have different numbers. -/
theorem numbers_distinct (hvalid : config.Valid) :
    (let hub : Hub config H := .empty config;
      (∀ i, (hub.queues (i, .send)).head.toNat = i * 2 ^ 21 ∧
        (hub.queues (i, .receive)).head.toNat = (2 * i + 1) * 2 ^ 20) ∧
      (∀ k k' : LaneId config, k ≠ k' →
        (hub.queues k).head.toNat + 2 ^ 20 ≤ (hub.queues k').head.toNat ∨
        (hub.queues k').head.toNat + 2 ^ 20 ≤ (hub.queues k).head.toNat) ∧
      ∀ (memory : Nat) (slots : UInt64), config.requestSlots = .ok slots → slots.toNat ≤ memory →
        ∀ (transport : τ) (grants : γ) (interface : ι), ∃ s : HubSession config τ γ ι H,
          HubSession.new config memory transport grants interface = .ok s ∧ s.tables = hub) ∧
    ∀ (custody : Custody γ) (s : HubSession config τ γ ι H), Reachable Hub.firstNumber custody s →
      (∀ k, let a := account (Hub.firstNumber k) k s.journal
        a.completed + a.cancelled + a.inits + a.activations + (s.tables.queues k).depth < 2 ^ 20) →
      (postedNumbers s.journal).Nodup := by
  constructor
  · refine ⟨fun i => ?heads, fun k k' hne => ?apart, fun memory slots hslots hmemory transport grants
      interface => ⟨_, HubSession.new_eq_ok hvalid hslots hmemory transport grants interface, rfl⟩⟩
    case heads =>
      rw [Hub.empty_queues_head, Hub.empty_queues_head, Hub.toNat_firstNumber hvalid,
        Hub.toNat_firstNumber hvalid]
      simp only [Hub.rank, and_true]
      omega
    case apart =>
      rw [Hub.empty_queues_head, Hub.empty_queues_head]
      exact Hub.firstNumber_apart hvalid hne
  · exact fun custody s h hshare => h.nodup_postedNumbers hshare

end Runs

namespace Trial

/-- Two drivers at the first numbers of a new hub become active, and get a packet to send and room for
one. -/
def spread : HubSession pair Outbox GrantLedger CallbackLog Nat :=
  { atRest with tables := Hub.startingAt pair Hub.firstNumber }.afterAll
    [.reconcile crowd, .process ⟨5⟩ (.init { reply with id := 1 }),
      .process ⟨6⟩ (.init { reply with id := 0x200001 }), .send ⟨0⟩ [⟨0, 16⟩],
      .receive ⟨1⟩ [⟨64, 16⟩]]

theorem spread_numbers : pair.Valid ∧
    (∃ s : HubSession pair Outbox GrantLedger CallbackLog Nat,
      HubSession.new pair 7 {} {} {} = .ok s ∧
      (s.tables.queues (first, .receive)).head.toNat = 2 ^ 20) ∧
    postedNumbers spread.journal = [0x300002, 2, 0x200001, 1] ∧
    (postedNumbers spread.journal).Nodup := by
  have hstart : Reachable Hub.firstNumber (.any GrantLedger)
      { atRest with tables := Hub.startingAt pair Hub.firstNumber } :=
    .new (s := { atRest with tables := Hub.empty pair }) pair_built trivial
  have hshare : ∀ k, let a := account (Hub.firstNumber k) k spread.journal
      a.completed + a.cancelled + a.inits + a.activations + (spread.tables.queues k).depth <
        2 ^ 20 := by decide +kernel
  have hvalid : pair.Valid := by decide
  obtain ⟨⟨hheads, -, hbuilds⟩, hdistinct⟩ :=
    numbers_distinct (τ := Outbox) (γ := GrantLedger) (ι := CallbackLog) (H := Nat) hvalid
  obtain ⟨s, hbuilt, htables⟩ := hbuilds 7 7 rfl (by decide) {} {} {}
  refine ⟨hvalid, ⟨s, hbuilt, ?_⟩, by decide +kernel,
    hdistinct (.any GrantLedger) spread (hstart.afterAll _) hshare⟩
  rw [htables, (hheads first).2]
  rfl

end Trial
end DriverHub
