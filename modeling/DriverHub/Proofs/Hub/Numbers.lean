import DriverHub.Proofs.Hub.Order

/-! Numbers are never used again. Seen without the wrapping of 32-bit words, the numbers given out by a
lane only grow, through restarts and whoever has the entry, so a late reply to an old request matches
nothing. -/
namespace DriverHub

open SessionM

variable {config : Config} {τ γ ι H : Type}

/-- The number that a reply repeats. -/
def Reply.number : Reply → UInt32
  | .init reply => reply.id
  | .finished _ id _ => id
  | .status id _ => id

/-- The lane of the driver against which a reply is matched, if it is matched at all. -/
def Reply.direction? : Reply → Option Direction
  | .init _ => some .send
  | .finished kind _ _ => some kind.direction
  | .status _ _ => none

/-- Whether a request takes a number of the lane of this direction. -/
def Request.isNumbered (request : Request) (direction : Direction) : Bool :=
  match request with
  | .init _ | .configure _ => direction = .send
  | .transfer direction' _ => direction = direction'
  | .acknowledge _ => false

/-- The requests posted that took numbers of a lane, the oldest first. -/
def numbered (k : LaneId config) : Journal H → List Request
  | [] => []
  | .posted driver _ request (.ok ()) :: journal =>
    if driver = ⟨k.1⟩ ∧ request.isNumbered k.2 then numbered k journal ++ [request]
    else numbered k journal
  | _ :: journal => numbered k journal

namespace Account

/-- The hub still waits for an answer to the request that got this number. -/
def Waits (a : Account) (number : Nat) : Prop :=
  a.awaited = some number ∨ number ∈ a.inFlight.map Prod.fst

instance (a : Account) (number : Nat) : Decidable (a.Waits number) :=
  inferInstanceAs (Decidable (_ ∨ _))

theorem issued_post (a : Account) (direction : Direction) (request : Request) :
    (a.post direction request).issued.map Prod.snd =
      if request.isNumbered direction then a.issued.map Prod.snd ++ [request]
      else a.issued.map Prod.snd := by
  cases request with
  | init id => cases direction <;> simp [Account.post, Request.kind?, begin, Request.isNumbered]
  | configure change =>
    cases direction <;>
      simp [Account.post, Request.kind?, RequestKind.direction, issue, Request.isNumbered]
  | transfer direction' t =>
    cases direction <;> cases direction' <;>
      simp [Account.post, Request.kind?, Direction.kind, RequestKind.direction, issue,
        Request.isNumbered]
  | acknowledge id => cases direction <;> simp [Account.post, Request.kind?, Request.isNumbered]

end Account

/-- The account records every request that took a number of the lane. -/
theorem issued_eq_numbered (start : UInt32) (k : LaneId config) (journal : Journal H) :
    (account start k journal).issued.map Prod.snd = numbered k journal := by
  -- Only an accepted request changes what was issued; every other entry is passed over.
  induction journal with
  | nil => rfl
  | cons entry journal ih =>
    rw [account_cons]
    cases entry with
    | posted driver endpoint request answer =>
      cases answer with
      | error cause => exact ih
      | ok _ =>
        simp only [Account.enter, numbered, ← ih]
        by_cases hdriver : driver = ⟨k.1⟩
        · rw [if_pos hdriver, Account.issued_post]
          simp only [hdriver, true_and]
        · rw [if_neg hdriver, if_neg fun hboth => hdriver hboth.1]
    | enabled driver handle enablement answer =>
      simp only [Account.enter, numbered, ← ih]
      split <;> rfl
    | finished driver kind handle result =>
      simp only [Account.enter, numbered, ← ih]
      split <;> rfl
    | noticed notice =>
      cases notice with
      | restarted driver endpoint =>
        simp only [Account.enter, numbered, ← ih]
        split <;> rfl
      | gone driver endpoint =>
        simp only [Account.enter, numbered, ← ih]
        split <;> rfl
      | _ => exact ih
    | _ => exact ih

/-- A number that was given out, and for which nobody waits, lies behind the lane, unless nobody has
the entry. -/
theorem Account.Fits.lt_number {n : Nat} {a : Account} {state : Occupant H} {lane : Lane n}
    (h : a.Fits state lane) (hstate : state ≠ .free) {x : Nat × Request} (hx : x ∈ a.issued)
    (hwaits : ¬a.Waits x.1) : x.1 < a.number := by
  rcases h.below x hx with hlt | ⟨-, hfree | hawaited⟩
  · by_contra hle
    refine hwaits (.inr ?_)
    rw [h.numbered, List.mem_range'_1]
    exact ⟨Nat.le_of_not_lt hle, hlt⟩
  · exact absurd hfree hstate
  · exact absurd (.inl hawaited) hwaits

theorem ofNat_ne_of_lt {u v : Nat} (hlt : u < v) (hnear : v - u < 2 ^ 32) :
    UInt32.ofNat v ≠ UInt32.ofNat u := by
  intro heq
  have hmod := congrArg UInt32.toNat heq
  rw [UInt32.toNat_ofNat', UInt32.toNat_ofNat'] at hmod
  omega

variable [Transport τ] [GrantTable γ] [Interface ι H] {s : HubSession config τ γ ι H}

/-- A reply to be matched against a lane whose number is not the lane's is only noted, without a
warning. -/
theorem Hub.process_unmatched (h : s.tables.Sound) {sender : Endpoint} {i : Fin config.drivers}
    (hfound : s.tables.findEndpoint sender = some i) {reply : Reply} {direction : Direction}
    (hdirection : reply.direction? = some direction)
    (hnumber : (s.tables.lane (i, direction)).head ≠ reply.number) :
    ∃ notice : Notice, notice.level = .trace ∧
      (process sender reply : HubM config τ γ ι H Unit) s =
        .ok () { s with journal := .noticed notice :: s.journal } := by
  apply process_ignored h hfound
  cases reply with
  | init reply =>
    obtain rfl := Option.some.inj hdirection
    exact fun hheeds => hnumber hheeds.2.symm
  | finished kind number result =>
    obtain rfl := Option.some.inj hdirection
    exact fun hheeds => hnumber hheeds.2.1
  | status number report => cases hdirection

variable {heads : LaneId config → UInt32} {custody : Custody γ}

/-- Numbers are never used again. The head of a lane is the word of its number, which counts every
request completed or cancelled, every init and every activation since the lane's first number. The
numbers given out to requests grow strictly, and each request carries the word of its number. So a
reply that repeats the word of a number for which nobody waits any longer is only noted. -/
theorem Reachable.numbers_grow (h : Reachable heads custody s) (k : LaneId config) :
    let a := account (heads k) k s.journal
    (s.tables.queues k).head = UInt32.ofNat a.number ∧
    a.issued.map Prod.snd = numbered k s.journal ∧
    a.issued.Pairwise (fun x y => x.1 < y.1) ∧
    (∀ x ∈ a.issued, x.2.number = UInt32.ofNat x.1) ∧
    ∀ sender reply, s.tables.findEndpoint sender = some k.1 → reply.direction? = some k.2 →
      ∀ x ∈ a.issued, ¬a.Waits x.1 → a.number - x.1 < 2 ^ 32 → reply.number = UInt32.ofNat x.1 →
        ∃ notice : Notice, notice.level = .trace ∧
          (Hub.process sender reply : HubM config τ γ ι H Unit) s =
            .ok () { s with journal := .noticed notice :: s.journal } := by
  intro a
  have hfits : a.Fits (s.tables.state k.1) (s.tables.lane k) := h.agrees k
  refine ⟨hfits.head, issued_eq_numbered .., hfits.increasing, hfits.ids, ?_⟩
  intro sender reply hfound hdirection x hx hwaits hnear hnumber
  refine Hub.process_unmatched h.sound hfound hdirection ?_
  -- The reply was routed to the entry, so somebody has it.
  have hfree : s.tables.state k.1 ≠ .free := by
    intro hfree
    have hendpoint := Hub.endpoint_of_findEndpoint h.sound.labelled hfound
    rw [hfree] at hendpoint
    cases hendpoint
  rw [hfits.head, hnumber]
  exact ofNat_ne_of_lt (hfits.lt_number hfree hx hwaits) hnear

/-- In the short run, the number of the send lane has wrapped, and the init reply is not taken twice. -/
theorem Trial.number_wraps :
    (session.tables.queues (entry, .send)).head = 1 ∧
    (account (Trial.heads (entry, .send)) (entry, .send) session.journal).number = 2 ^ 32 + 1 ∧
    ∃ notice : Notice, notice.level = .trace ∧
      (Hub.process ⟨5⟩ (.init reply) : HubM small Outbox GrantLedger CallbackLog Nat Unit)
        session = .ok () { session with journal := .noticed notice :: session.journal } := by
  have h := Reachable.numbers_grow reached (entry, .send)
  have hnumber : (account (Trial.heads (entry, .send)) (entry, .send) session.journal).number =
      2 ^ 32 + 1 := by decide +kernel
  refine ⟨h.1.trans (by rw [hnumber]; rfl), hnumber, ?_⟩
  exact h.2.2.2.2 ⟨5⟩ (.init reply) (by decide +kernel) rfl (2 ^ 32, .init 0) (by decide +kernel)
    (by decide +kernel) (by decide +kernel) rfl

end DriverHub
