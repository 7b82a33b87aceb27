import ChopNow.Proofs.Mirror

/-! Two schedulers and the transfer worker. Payouts of one period exclude each other
by `(party, periodStart)`, so a scheduler is safe when the balance and the start of
its period are read against the same last payout. -/

namespace ChopNow

open Interleave Tally

/-! Credits and payouts in the journal. -/

/-- An entry of the account in which the platform owes the party. -/
def Party.mine (party : Party) (e : LedgerEntry) : Bool := e.account == party.account && party.owns e

/-- What was credited to the party: deliveries and compensations, within a window. -/
def creditsXAF (party : Party) (window : LedgerEntry → Bool) (ledger : Ledger) : ℤ :=
  tally (fun e => party.mine e && decide (e.amountXAF < 0) && window e) (fun e => -e.amountXAF) ledger

/-- What was debited for its payouts. -/
def debitsXAF (party : Party) (window : LedgerEntry → Bool) (ledger : Ledger) : ℤ :=
  tally (fun e => party.mine e && e.eventId.isPayout && window e) (·.amountXAF) ledger

/-- What its penalties took, within a window. -/
def penaltiesXAF (party : Party) (window : LedgerEntry → Bool) (ledger : Ledger) : ℤ :=
  tally (fun e => party.mine e && (e.eventId.isPenalty && decide (0 < e.amountXAF)) && window e) (·.amountXAF) ledger

def payoutsXAF (party : Party) (payouts : List Payout) : ℤ :=
  ((payouts.filter fun p => p.party = party).map (·.netXAF)).sum

def upTo (t : Option Time) (e : LedgerEntry) : Bool := !isAfter t e

/-- Booked by then, where there is such a moment. -/
def within (until? : Option Time) (e : LedgerEntry) : Bool := until?.all fun t => decide (e.createdAt ≤ t)

/-- What payouts, and penalties up to some moment, leave of the credits of a window. -/
def leftXAF (party : Party) (window : LedgerEntry → Bool) (until? : Option Time) (ledger : Ledger) : ℤ :=
  creditsXAF party window ledger - debitsXAF party window ledger -
    penaltiesXAF party (fun e => window e && within until? e) ledger

section Windows

variable {party : Party} {window : LedgerEntry → Bool} {until? : Option Time}

theorem creditsXAF_nonneg (l : Ledger) : 0 ≤ creditsXAF party window l :=
  tally_nonneg fun e _ he => by
    simp only [Bool.and_eq_true, decide_eq_true_eq] at he
    omega

/-- Fewer entries, less in penalties. -/
theorem penaltiesXAF_mono {window' : LedgerEntry → Bool} {l : Ledger}
    (h : ∀ e ∈ l, window e = true → window' e = true) : penaltiesXAF party window l ≤ penaltiesXAF party window' l := by
  refine tally_mono (fun e he hw => ?_) fun e _ hw => ?_
  · rw [Bool.and_eq_true] at hw ⊢
    exact hw.imp_right (h e he)
  · simp only [Bool.and_eq_true, decide_eq_true_eq] at hw
    exact hw.1.2.2.le

@[simp] theorem debitsXAF_append (l m : Ledger) :
    debitsXAF party window (l ++ m) = debitsXAF party window l + debitsXAF party window m := tally_append ..

theorem debitsXAF_other {rows : Ledger} (h : ∀ e ∈ rows, party.mine e = false ∨ e.eventId.isPayout = false) :
    debitsXAF party window rows = 0 :=
  tally_eq_zero fun e he hp => by
    simp only [Bool.and_eq_true] at hp
    rcases h e he with h | h <;> simp [h] at hp

@[simp] theorem leftXAF_append (l m : Ledger) :
    leftXAF party window until? (l ++ m) = leftXAF party window until? l + leftXAF party window until? m := by
  simp only [leftXAF, creditsXAF, debitsXAF, penaltiesXAF, tally_append]
  ring

/-- The sums of a window and of what comes after it. -/
theorem leftXAF_split (t : Option Time) (l : Ledger) : leftXAF party (fun _ => true) until? l =
    leftXAF party (upTo t) until? l + leftXAF party (isAfter t) until? l := by
  have hc := tally_split (fun e => party.mine e && decide (e.amountXAF < 0)) (isAfter t) (fun e => -e.amountXAF) l
  have hd := tally_split (fun e => party.mine e && e.eventId.isPayout) (isAfter t) (·.amountXAF) l
  have hp := tally_split (fun e => party.mine e && (e.eventId.isPenalty && decide (0 < e.amountXAF)) && within until? e)
    (isAfter t) (·.amountXAF) l
  have hcomm : ∀ w : LedgerEntry → Bool,
      tally (fun e => party.mine e && (e.eventId.isPenalty && decide (0 < e.amountXAF)) && (w e && within until? e))
        (·.amountXAF) l =
      tally (fun e => party.mine e && (e.eventId.isPenalty && decide (0 < e.amountXAF)) && within until? e && w e)
        (·.amountXAF) l := fun w => tally_congr fun e _ => by simp only [Bool.and_assoc, Bool.and_comm (w e)]
  simp only [leftXAF, creditsXAF, debitsXAF, penaltiesXAF, upTo, Bool.and_true, Bool.true_and, hcomm] at hc hd hp ⊢
  omega

/-- Rows outside the window leave its sums. -/
theorem leftXAF_outside {rows : Ledger} (h : ∀ e ∈ rows, window e = false) : leftXAF party window until? rows = 0 := by
  simp only [leftXAF, creditsXAF, debitsXAF, penaltiesXAF]
  rw [tally_eq_zero, tally_eq_zero, tally_eq_zero] <;> first | rfl | exact fun e he hp => by simp [h e he] at hp

/-- Fewer penalties leave more. -/
theorem leftXAF_until_le {until?' : Option Time} {l : Ledger}
    (h : ∀ e ∈ l, window e = true → within until?' e = true → within until? e = true) :
    leftXAF party window until? l ≤ leftXAF party window until?' l := by
  have hp : penaltiesXAF party (fun e => window e && within until?' e) l ≤
      penaltiesXAF party (fun e => window e && within until? e) l := by
    refine penaltiesXAF_mono fun e he hw => ?_
    rw [Bool.and_eq_true] at hw ⊢
    exact ⟨hw.1, h e he hw.1 hw.2⟩
  simp only [leftXAF]
  omega

/-- Rows that pay nothing out, and whose penalties do not count yet. -/
theorem leftXAF_nonneg {rows : Ledger} (hpayout : ∀ e ∈ rows, party.mine e = false ∨ e.eventId.isPayout = false)
    (hpenalty : ∀ e ∈ rows, party.mine e = true → within until? e = true → e.eventId.isPenalty = false) :
    0 ≤ leftXAF party window until? rows := by
  have hc : 0 ≤ creditsXAF party window rows := creditsXAF_nonneg rows
  have hd : debitsXAF party window rows = 0 := debitsXAF_other hpayout
  have hp : penaltiesXAF party (fun e => window e && within until? e) rows = 0 := tally_eq_zero fun e he hp => by
    simp only [Bool.and_eq_true] at hp
    simp [hpenalty e he hp.1.1 hp.2.2] at hp
  simp only [leftXAF]
  omega

/-- Where the window has every credit, the others have no more left. -/
theorem leftXAF_le_of_credits {l : Ledger} (hcredits : ∀ e ∈ l, party.mine e = true → e.amountXAF < 0 → window e = true)
    (hdebits : ∀ e ∈ l, party.mine e = true → e.eventId.isPayout = true → 0 ≤ e.amountXAF) :
    leftXAF party (fun _ => true) none l ≤ leftXAF party window none l := by
  have hc : creditsXAF party (fun _ => true) l ≤ creditsXAF party window l := by
    refine tally_mono (fun e he hw => ?_) fun e _ hw => ?_ <;>
      simp only [Bool.and_eq_true, decide_eq_true_eq, and_true] at hw ⊢
    · exact ⟨hw, hcredits e he hw.1 hw.2⟩
    · omega
  have hd : debitsXAF party window l ≤ debitsXAF party (fun _ => true) l := by
    refine tally_mono (fun e _ hw => ?_) fun e he hw => ?_ <;> simp only [Bool.and_eq_true, and_true] at hw ⊢
    · exact hw.1
    · exact hdebits e he hw.1 hw.2
  have hp : penaltiesXAF party (fun e => window e && within none e) l ≤
      penaltiesXAF party (fun e => true && within none e) l := penaltiesXAF_mono fun _ _ _ => rfl
  simp only [leftXAF]
  omega

/-- A balance is at most what its window has left. -/
theorem balance_le_left (b : Books) (party : Party) :
    (b.balance party).balanceXAF ≤ leftXAF party (isAfter (b.cutoff party)) none b.ledger := by
  have hkinds : ∀ id : EventId, id.isPayout = true → id.isPenalty = false := fun id h => by cases id <;> first | rfl | cases h
  have hsum : ∀ l : Ledger, -balanceOf party.account (fun e => party.owns e && isAfter (b.cutoff party) e && true) l ≤
      leftXAF party (isAfter (b.cutoff party)) none l := by
    intro l
    induction l with
    | nil => exact le_rfl
    | cons e l ih =>
      have hkind := hkinds e.eventId
      simp only [balanceOf, leftXAF, creditsXAF, debitsXAF, penaltiesXAF, within, Option.all_none, tally_cons,
        Party.mine] at ih ⊢
      cases e.account == party.account <;> cases party.owns e <;> cases isAfter (b.cutoff party) e <;>
        cases hpay : e.eventId.isPayout <;> cases hpen : e.eventId.isPenalty <;> by_cases ha : e.amountXAF < 0 <;>
        by_cases hb : 0 < e.amountXAF <;> simp [ha, hb, hpay, hpen] at ih hkind ⊢ <;> omega
  rw [balance_eq]
  exact hsum b.ledger

end Windows

theorem payoutInput_debits (p : Payout) (description : String) (now : Time) (party : Party) :
    debitsXAF party (fun _ => true) ((payoutInput p description).rows p.eventId now) =
      if p.party = party then p.netXAF else 0 := by
  have hkind := (payout_kind p).1
  cases hp : p.party <;> cases party <;>
    simp [debitsXAF, Party.mine, Party.account, Party.owns, Party.vendorId, Party.riderId, payoutInput,
      RecordTransactionInput.rows, hkind, hp]

theorem payoutInput_other {p : Payout} {description : String} {id : EventId} {now : Time} {party : Party}
    (h : p.party ≠ party) : ∀ e ∈ (payoutInput p description).rows id now, party.mine e = false := by
  intro e he
  obtain ⟨entry, hentry, rfl⟩ := List.mem_map.1 he
  simp only [payoutInput, List.mem_cons, List.not_mem_nil, or_false] at hentry
  rcases hentry with rfl | rfl <;> cases hp : p.party <;> cases party <;>
    simp_all [Party.mine, Party.account, Party.owns, Party.vendorId, Party.riderId]

/-! The invariant of one party. -/

section OneParty

variable (party : Party) (joined : Time)

/-- A payout for the period from `periodStart` exists. -/
def Taken (b : Books) (periodStart : Time) : Prop := ∃ p ∈ b.payouts, p.party = party ∧ p.periodStart = periodStart

/-- Where the next period starts. -/
def Books.nextStart (b : Books) : Time := (b.cutoff party).getD joined

/-- Paying this much leaves the window covered, penalties up to some moment included. -/
def Fits (b : Books) (netXAF : ℤ) (until? : Option Time) : Prop :=
  netXAF ≤ leftXAF party (isAfter (b.cutoff party)) until? b.ledger

/-- By then the credits covered payouts and penalties. -/
def SoundAt (b : Books) (t : Time) : Prop := 0 ≤ leftXAF party (upTo (some t)) none b.ledger

/-- What a balance is worth that was read for a period up to then. -/
structure Worth (b : Books) (netXAF : ℤ) (until? : Option Time) : Prop where
  positive : 0 < netXAF
  fits : Fits party b netXAF until?
  sound : ∀ t, until? = some t → SoundAt party b t

/-- At most one payout of the party is pending, and it fills the next period. -/
structure Slots (b : Books) : Prop where
  once : ∀ p ∈ b.payouts, ∀ q ∈ b.payouts, p.party = q.party → p.periodStart = q.periodStart → p.id = q.id
  pending : ∀ p ∈ b.payouts, p.party = party → p.isSettling = false → p.periodStart = b.nextStart party joined
  status : ∀ p ∈ b.payouts, p.isSettling = false → p.status = .pending

/-- Credits covered the payouts and the penalties that a payout has left behind. -/
structure PaidOnce (b : Books) : Prop where
  createdAt : ∀ t, b.createdAt party = some t → t = joined
  stamped : ∀ e ∈ b.ledger, e.createdAt < b.clock
  positive : ∀ e ∈ b.ledger, party.mine e = true → e.eventId.isPayout = true → 0 ≤ e.amountXAF
  paid : payoutsXAF party b.payouts = debitsXAF party (fun _ => true) b.ledger
  slots : Slots party joined b
  ended : ∀ p ∈ b.payouts, p.party = party → p.periodEnd < b.clock
  sound : ∀ p ∈ b.payouts, p.party = party → SoundAt party b p.periodEnd
  covered : ∀ p ∈ b.payouts, p.party = party → 0 ≤ leftXAF party (fun _ => true) (some p.periodEnd) b.ledger

/-- A scheduler of the party has read the balance and has yet to read the last payout. -/
def Scheduler.reading : Scheduler → Prop
  | .countDisputes job _ | .readLastPayout job _ => job.party = party
  | _ => False

/-- An approveCashoutRequest of the party has read the balance, and its period has no end yet. -/
def Scheduler.cashingOut : Scheduler → Prop
  | .countDisputes job _ | .readLastPayout job _ => job.party = party ∧ job.sweptAt = none
  | _ => False

/-- What a scheduler's balance is worth, unless its period is taken. -/
def Scheduler.Safe (b : Books) : Scheduler → Prop
  | .checkKyc _ _ scheduledFor => scheduledFor < b.clock
  | .readBalance job => ∀ t, job.sweptAt = some t → t < b.clock
  | .countDisputes job balance | .readLastPayout job balance => (∀ t, job.sweptAt = some t → t < b.clock) ∧
    (job.party = party → Worth party b balance.balanceXAF job.sweptAt ∨ Taken party b (b.nextStart party joined))
  | .findExisting job balance periodStart periodEnd | .transact job balance periodStart periodEnd =>
    periodEnd < b.clock ∧ (job.party = party →
      periodStart = b.nextStart party joined ∧ Worth party b balance.balanceXAF (some periodEnd) ∨
        Taken party b periodStart)
  | _ => True

/-- The worker only locks, and no pending payout of the party while a scheduler is between its two
reads. What a sweep reads of the party was credited before it started, and the party is not fined
while a cashout is between the same reads. -/
def readsTogether : Guard Books Scheduler BooksEvent Reply := fun b us m =>
  match m with
  | .event (.payout id .lockRow) =>
    (∃ p ∈ b.payouts, p.id = id ∧ p.party = party ∧ p.status = .pending) → ∀ u ∈ us, ¬u.reading party
  | .event (.payout _ _) => False
  | .event (.order x) => (∃ v, party = .vendor v ∧ x.fines v) → ∀ u ∈ us, ¬u.cashingOut party
  | .step (.readBalance job) _ => job.party = party → ∀ t, job.sweptAt = some t →
    ∀ e ∈ b.ledger, party.mine e = true → e.amountXAF < 0 → e.createdAt ≤ t
  | _ => True

variable {party joined}

theorem cutoff_mem {b : Books} {t : Time} (h : b.cutoff party = some t) :
    ∃ p ∈ b.payouts, p.party = party ∧ p.periodEnd = t := by
  obtain ⟨p, hp, rfl⟩ := List.mem_map.1 (List.max?_mem h)
  obtain ⟨hp, hmine⟩ := List.mem_filter.1 hp
  exact ⟨p, hp, by simpa using (Bool.and_eq_true_iff.1 hmine).1, rfl⟩

theorem le_cutoff {b : Books} {p : Payout} (hp : p ∈ b.payouts) (hparty : p.party = party) (hs : p.isSettling = true) :
    ∃ t, b.cutoff party = some t ∧ p.periodEnd ≤ t := by
  have hmem : p.periodEnd ∈ (b.payouts.filter fun p => decide (p.party = party) && p.isSettling).map (·.periodEnd) :=
    List.mem_map_of_mem (List.mem_filter.2 ⟨hp, by simp [hparty, hs]⟩)
  cases hmax : b.cutoff party with
  | none =>
    rw [Books.cutoff, List.max?_eq_none_iff] at hmax
    simp [hmax] at hmem
  | some t => exact ⟨t, rfl, (List.max?_eq_some_iff.1 hmax).2 _ hmem⟩

/-- At the cutoff, too, all was covered. -/
theorem PaidOnce.at_cutoff {b : Books} (h : PaidOnce party joined b) :
    0 ≤ leftXAF party (upTo (b.cutoff party)) none b.ledger := by
  cases hcut : b.cutoff party with
  | none => exact (leftXAF_outside fun _ _ => rfl).ge
  | some t =>
    obtain ⟨p, hp, hparty, rfl⟩ := cutoff_mem hcut
    exact h.sound p hp hparty

/-- What fits the window is left of everything. -/
theorem PaidOnce.fits_all {b : Books} {netXAF : ℤ} {until? : Option Time} (h : PaidOnce party joined b)
    (hfits : Fits party b netXAF until?) : netXAF ≤ leftXAF party (fun _ => true) until? b.ledger := by
  have hcutoff := h.at_cutoff
  have hle : leftXAF party (upTo (b.cutoff party)) none b.ledger ≤
      leftXAF party (upTo (b.cutoff party)) until? b.ledger := leftXAF_until_le fun _ _ _ _ => rfl
  unfold Fits at hfits
  rw [leftXAF_split (b.cutoff party)]
  omega

theorem upTo_iff {t : Time} {e : LedgerEntry} : upTo (some t) e = true ↔ e.createdAt ≤ t := by
  simp [upTo, isAfter]

/-- What is booked from now on lies outside. -/
theorem SoundAt.append {b b' : Books} {rows : Ledger} {t : Time} (h : SoundAt party b t) (ht : t < b.clock)
    (hl : b'.ledger = b.ledger ++ rows) (hrows : ∀ e ∈ rows, e.createdAt = b.clock) : SoundAt party b' t := by
  have hout : leftXAF party (upTo (some t)) none rows = 0 := leftXAF_outside fun e he => by
    have hlate : ¬e.createdAt ≤ t := by rw [hrows e he]; exact not_le.2 ht
    simpa [upTo, isAfter] using hlate
  unfold SoundAt at h ⊢
  rw [hl, leftXAF_append, hout]
  omega

/-- What the other writers do: the party's payouts stay, its debits too, its credits may grow. -/
structure Calm (party : Party) (b b' : Books) (rows : Ledger) : Prop where
  createdAt : b'.createdAt party = b.createdAt party
  clock : b.clock ≤ b'.clock
  cutoff : b'.cutoff party = b.cutoff party
  taken : ∀ t, Taken party b t → Taken party b' t
  ledger : b'.ledger = b.ledger ++ rows
  now : ∀ e ∈ rows, e.createdAt = b.clock ∧ b.clock < b'.clock
  unpaid : ∀ e ∈ rows, party.mine e = false ∨ e.eventId.isPayout = false

section

variable {b b' : Books} {rows : Ledger}

theorem Calm.of_ledger_eq (hcreated : b'.createdAt party = b.createdAt party) (hclock : b.clock ≤ b'.clock)
    (hcutoff : b'.cutoff party = b.cutoff party) (htaken : ∀ t, Taken party b t → Taken party b' t)
    (hl : b'.ledger = b.ledger) : Calm party b b' [] :=
  ⟨hcreated, hclock, hcutoff, htaken, by rw [hl, List.append_nil], by simp, by simp⟩

theorem Calm.nextStart (h : Calm party b b' rows) : b'.nextStart party joined = b.nextStart party joined := by
  rw [Books.nextStart, h.cutoff, Books.nextStart]

/-- A cashout that has yet to end its period counts every penalty, a sweep those before it started. -/
theorem Calm.worth (h : Calm party b b' rows) {netXAF : ℤ} {until? : Option Time} (hw : Worth party b netXAF until?)
    (hended : ∀ t, until? = some t → t < b.clock)
    (hfine : until? = none → ∀ e ∈ rows, party.mine e = true → e.eventId.isPenalty = false) :
    Worth party b' netXAF until? := by
  refine ⟨hw.positive, ?_, fun t ht => (hw.sound t ht).append (hended t ht) h.ledger fun e he => (h.now e he).1⟩
  have hrows : 0 ≤ leftXAF party (isAfter (b.cutoff party)) until? rows := by
    refine leftXAF_nonneg h.unpaid fun e he hmine hin => ?_
    cases hu : until? with
    | none => exact hfine hu e he hmine
    | some t =>
      have hearly : e.createdAt ≤ t := by simpa [within, hu] using hin
      rw [(h.now e he).1] at hearly
      exact absurd (hended t hu) (not_lt.2 hearly)
  have hfits := hw.fits
  unfold Fits at hfits ⊢
  rw [h.cutoff, h.ledger, leftXAF_append]
  omega

theorem Calm.safe (h : Calm party b b' rows) {t : Scheduler}
    (hfine : t.cashingOut party → ∀ e ∈ rows, party.mine e = true → e.eventId.isPenalty = false)
    (ht : t.Safe party joined b) : t.Safe party joined b' := by
  cases t with
  | checkKyc rider momoPhone scheduledFor => exact ht.trans_le h.clock
  | readBalance job => exact fun s hs => (ht s hs).trans_le h.clock
  | countDisputes job balance | readLastPayout job balance =>
    refine ⟨fun s hs => (ht.1 s hs).trans_le h.clock, fun hp => ?_⟩
    rw [h.nextStart]
    exact (ht.2 hp).imp (fun hw => h.worth hw ht.1 fun hswept => hfine ⟨hp, hswept⟩) (h.taken _)
  | findExisting job balance periodStart periodEnd | transact job balance periodStart periodEnd =>
    refine ⟨ht.1.trans_le h.clock, fun hp => ?_⟩
    rw [h.nextStart]
    refine (ht.2 hp).imp (fun hs => ⟨hs.1, h.worth hs.2 (fun s hs => ?_) nofun⟩) (h.taken _)
    obtain rfl := Option.some.inj hs
    exact ht.1
  | _ => trivial

theorem past_append (h : ∀ e ∈ b.ledger, e.createdAt < b.clock) (hl : b'.ledger = b.ledger ++ rows)
    (hclock : b.clock ≤ b'.clock) (hnow : ∀ e ∈ rows, e.createdAt = b.clock ∧ b.clock < b'.clock) :
    ∀ e ∈ b'.ledger, e.createdAt < b'.clock := by
  intro e he
  rw [hl] at he
  rcases List.mem_append.1 he with he | he
  · exact (h e he).trans_le hclock
  · rw [(hnow e he).1]
    exact (hnow e he).2

/-- The payouts as they were, up to their status. -/
theorem PaidOnce.calm (h : PaidOnce party joined b) (hc : Calm party b b' rows)
    (hpaid : payoutsXAF party b'.payouts = payoutsXAF party b.payouts) (hslots : Slots party joined b')
    (hsame : ∀ p' ∈ b'.payouts, p'.party = party → ∃ p ∈ b.payouts, SamePayout p p') : PaidOnce party joined b' := by
  have hmine : ∀ p' ∈ b'.payouts, p'.party = party → ∃ p ∈ b.payouts, p.party = party ∧ p'.periodEnd = p.periodEnd := by
    intro p' hp' hparty
    obtain ⟨p, hp, hs⟩ := hsame p' hp' hparty
    exact ⟨p, hp, hs.party ▸ hparty, hs.periodEnd⟩
  refine ⟨fun t ht => h.createdAt t (hc.createdAt ▸ ht), past_append h.stamped hc.ledger hc.clock hc.now,
    fun e he hm hk => ?_, ?_, hslots, fun p' hp' hparty => ?_, fun p' hp' hparty => ?_, fun p' hp' hparty => ?_⟩
  · rw [hc.ledger] at he
    rcases List.mem_append.1 he with he | he
    · exact h.positive e he hm hk
    · rcases hc.unpaid e he with hu | hu
      · simp [hu] at hm
      · simp [hu] at hk
  · rw [hpaid, h.paid, hc.ledger, debitsXAF_append, debitsXAF_other hc.unpaid, add_zero]
  all_goals obtain ⟨p, hp, hmine, hend⟩ := hmine p' hp' hparty; rw [hend]
  · exact (h.ended p hp hmine).trans_le hc.clock
  · exact (h.sound p hp hmine).append (h.ended p hp hmine) hc.ledger fun e he => (hc.now e he).1
  · have hrows : 0 ≤ leftXAF party (fun _ => true) (some p.periodEnd) rows := by
      refine leftXAF_nonneg hc.unpaid fun e he _ hin => ?_
      have hearly : e.createdAt ≤ p.periodEnd := by simpa [within] using hin
      rw [(hc.now e he).1] at hearly
      exact absurd (h.ended p hp hmine) (not_lt.2 hearly)
    have hcovered := h.covered p hp hmine
    rw [hc.ledger, leftXAF_append]
    omega

end

/-! Statements and transactions, one by one. -/

theorem cutoff_congr {b b' : Books} (h : b'.payouts = b.payouts) : b'.cutoff party = b.cutoff party := by
  rw [Books.cutoff, h, Books.cutoff]

theorem Slots.congr {b b' : Books} (h : Slots party joined b) (hp : b'.payouts = b.payouts) : Slots party joined b' := by
  refine ⟨by rw [hp]; exact h.once, ?_, by rw [hp]; exact h.status⟩
  rw [hp, Books.nextStart, cutoff_congr hp]
  exact h.pending

theorem Taken.mono {b b' : Books} (h : ∀ p ∈ b.payouts, ∃ p' ∈ b'.payouts, SamePayout p p') {t : Time}
    (ht : Taken party b t) : Taken party b' t := by
  obtain ⟨p, hp, hparty, hstart⟩ := ht
  obtain ⟨p', hp', hs⟩ := h p hp
  exact ⟨p', hp', hs.party.trans hparty, hs.periodStart.trans hstart⟩

/-- What the lock does to one payout. -/
theorem lockRow_settled {p : Payout} {now : Time} (h : p.isSettling = true) : PayoutWrite.lockRow.apply p now = p := by
  simp only [PayoutWrite.apply]
  split
  · next hs => simp [Payout.isSettling, hs] at h
  · rfl

theorem lockRow_pending {p : Payout} {now : Time} (h : p.status = .pending) :
    (PayoutWrite.lockRow.apply p now).isSettling = true := by
  simp [PayoutWrite.apply, h, Payout.isSettling]

theorem Slots.unsettled {b : Books} (h : Slots party joined b) {id : PayoutId} {p' : Payout}
    (hp' : p' ∈ (b.writePayout id .lockRow).payouts) (hs : p'.isSettling = false) :
    p' ∈ b.payouts ∧ p'.id ≠ id := by
  obtain ⟨p, hp, rfl⟩ := List.mem_map.1 hp'
  split at hs
  · exfalso
    cases hb : p.isSettling with
    | true => simp [lockRow_settled hb, hb] at hs
    | false => simp [lockRow_pending (h.status p hp hb)] at hs
  · next hid =>
    rw [if_neg hid]
    exact ⟨hp, hid⟩

theorem once_writePayout {b : Books} (h : Slots party joined b) (id : PayoutId) (x : PayoutWrite) :
    ∀ p ∈ (b.writePayout id x).payouts, ∀ q ∈ (b.writePayout id x).payouts, p.party = q.party →
      p.periodStart = q.periodStart → p.id = q.id := by
  intro p' hp' q' hq' hparty hstart
  obtain ⟨p, hp, hs⟩ := mem_writePayout hp'
  obtain ⟨q, hq, hs'⟩ := mem_writePayout hq'
  rw [hs.id, hs'.id]
  exact h.once p hp q hq (by rw [← hs.party, ← hs'.party, hparty]) (by rw [← hs.periodStart, ← hs'.periodStart, hstart])

/-- The party's pending payout is sent: its period is taken, and nothing is pending. -/
theorem Slots.lock_mine {b : Books} (h : Slots party joined b) {p : Payout} (hp : p ∈ b.payouts)
    (hparty : p.party = party) (hpending : p.isSettling = false) :
    Slots party joined (b.writePayout p.id .lockRow) ∧
      Taken party (b.writePayout p.id .lockRow) (b.nextStart party joined) := by
  refine ⟨⟨once_writePayout h _ _, fun q hq hqparty hqs => ?_, fun q hq hqs => ?_⟩, ?_⟩
  · obtain ⟨hq, hid⟩ := h.unsettled hq hqs
    have hsame := h.once q hq p hp (hqparty.trans hparty.symm)
      ((h.pending q hq hqparty hqs).trans (h.pending p hp hparty hpending).symm)
    exact absurd hsame hid
  · exact h.status q (h.unsettled hq hqs).1 hqs
  · exact Taken.mono (fun q hq => writePayout_keeps hq _ _) ⟨p, hp, hparty, h.pending p hp hparty hpending⟩

/-- A lock that finds none of the party's payouts pending. -/
theorem cutoff_lock_other {b : Books} {id : PayoutId}
    (hother : ∀ p ∈ b.payouts, p.id = id → p.party = party → p.isSettling = true) :
    (b.writePayout id .lockRow).cutoff party = b.cutoff party := by
  have hsame : ∀ l : List Payout, (∀ p ∈ l, p.id = id → p.party = party → p.isSettling = true) →
      ((l.map fun p => if p.id = id then PayoutWrite.lockRow.apply p b.clock else p).filter
        fun p => decide (p.party = party) && p.isSettling).map (·.periodEnd) =
      (l.filter fun p => decide (p.party = party) && p.isSettling).map (·.periodEnd) := by
    intro l hl
    induction l with
    | nil => rfl
    | cons p l ih =>
      have ih := ih fun q hq => hl q (.tail _ hq)
      by_cases hid : p.id = id
      · have hs := PayoutWrite.lockRow.apply_same p b.clock
        by_cases hparty : p.party = party
        · rw [List.map_cons, if_pos hid, lockRow_settled (hl p (.head _) hid hparty)]
          simp only [List.filter_cons]
          split <;> simp [ih]
        · simp [hid, hs.party, hparty, ih]
      · rw [List.map_cons, if_neg hid]
        simp only [List.filter_cons]
        split <;> simp [ih]
  exact congrArg List.max? (hsame b.payouts hother)

theorem Slots.lock_other {b : Books} (h : Slots party joined b) {id : PayoutId}
    (hother : ∀ p ∈ b.payouts, p.id = id → p.party = party → p.isSettling = true) :
    Slots party joined (b.writePayout id .lockRow) := by
  refine ⟨once_writePayout h _ _, fun p hp hparty hs => ?_, fun p hp hs => h.status p (h.unsettled hp hs).1 hs⟩
  rw [Books.nextStart, cutoff_lock_other hother]
  exact h.pending p (h.unsettled hp hs).1 hparty hs

theorem payoutsXAF_writePayout (b : Books) (id : PayoutId) (x : PayoutWrite) :
    payoutsXAF party (b.writePayout id x).payouts = payoutsXAF party b.payouts := by
  unfold payoutsXAF Books.writePayout
  induction b.payouts with
  | nil => rfl
  | cons p l ih =>
    have hs : SamePayout p (if p.id = id then x.apply p b.clock else p) := by
      split
      · exact x.apply_same p b.clock
      · exact .refl p
    simp only [List.map_cons, List.filter_cons, hs.party]
    split <;> simp_all [hs.netXAF]

theorem cutoff_committed {b b' : Books} {job : PayoutJob} {balance : PartyBalance} {periodStart periodEnd : Time}
    (hc : PayoutCommitted b job balance periodStart periodEnd b') : b'.cutoff party = b.cutoff party := by
  have hpending : (job.row b.payouts.length balance periodStart periodEnd).isSettling = false := rfl
  simp [Books.cutoff, hc.payouts, List.filter_append, hpending]

theorem Slots.committed {b b' : Books} {job : PayoutJob} {balance : PartyBalance} {periodStart periodEnd : Time}
    (h : Slots party joined b) (hc : PayoutCommitted b job balance periodStart periodEnd b')
    (hnext : job.party = party → periodStart = b.nextStart party joined) : Slots party joined b' := by
  refine ⟨fun p hp q hq hparty hstart => ?_, fun p hp hparty hs => ?_, fun p hp hs => ?_⟩
  · rw [hc.payouts] at hp hq
    rcases List.mem_append.1 hp with hp | hp <;> rcases List.mem_append.1 hq with hq | hq
    · exact h.once p hp q hq hparty hstart
    · obtain rfl := List.mem_singleton.1 hq
      exact absurd ⟨hparty, hstart⟩ (hc.fresh p hp)
    · obtain rfl := List.mem_singleton.1 hp
      exact absurd ⟨hparty.symm, hstart.symm⟩ (hc.fresh q hq)
    · rw [List.mem_singleton.1 hp, List.mem_singleton.1 hq]
  · rw [Books.nextStart, cutoff_committed hc]
    rw [hc.payouts] at hp
    rcases List.mem_append.1 hp with hp | hp
    · exact h.pending p hp hparty hs
    · obtain rfl := List.mem_singleton.1 hp
      exact hnext hparty
  · rw [hc.payouts] at hp
    rcases List.mem_append.1 hp with hp | hp
    · exact h.status p hp hs
    · obtain rfl := List.mem_singleton.1 hp
      rfl

theorem committed_keeps {b b' : Books} {job : PayoutJob} {balance : PartyBalance} {periodStart periodEnd : Time}
    (hc : PayoutCommitted b job balance periodStart periodEnd b') :
    ∀ p ∈ b.payouts, ∃ p' ∈ b'.payouts, SamePayout p p' := fun p hp =>
  ⟨p, by rw [hc.payouts]; exact List.mem_append_left _ hp, .refl p⟩

theorem payoutsXAF_committed {b b' : Books} {job : PayoutJob} {balance : PartyBalance} {periodStart periodEnd : Time}
    (hc : PayoutCommitted b job balance periodStart periodEnd b') :
    payoutsXAF party b'.payouts = payoutsXAF party b.payouts + if job.party = party then balance.balanceXAF else 0 := by
  rw [hc.payouts, payoutsXAF, List.filter_append, List.map_append, List.sum_append]
  by_cases h : job.party = party <;> simp [payoutsXAF, PayoutJob.row, h]

section

variable {b b' : Books} {job : PayoutJob} {balance : PartyBalance} {periodStart periodEnd : Time}

/-- The rows of the transaction. -/
theorem committed_rows (party : Party) (hc : PayoutCommitted b job balance periodStart periodEnd b') :
    ∃ rows, b'.ledger = b.ledger ++ rows ∧ (∀ e ∈ rows, e.createdAt = b.clock ∧ b.clock < b'.clock) ∧
      (∀ e ∈ rows, e.eventId.isPenalty = false) ∧ (job.party ≠ party → ∀ e ∈ rows, party.mine e = false) ∧
      (job.party = party → debitsXAF party (fun _ => true) rows = balance.balanceXAF) ∧
      (0 < balance.balanceXAF → ∀ e ∈ rows, party.mine e = true → 0 ≤ e.amountXAF) := by
  refine ⟨_, hc.ledger, fun e he => ⟨createdAt_of_mem_rows he, hc.clock ▸ Nat.lt_succ_self _⟩, fun e he => ?_,
    fun hother => payoutInput_other hother, fun hmine => ?_, fun hpos e he hmine => ?_⟩
  · rw [eventId_of_mem_rows he]
    exact (payout_kind _).2
  · rw [payoutInput_debits]
    exact if_pos hmine
  · obtain ⟨entry, hentry, rfl⟩ := List.mem_map.1 he
    simp only [payoutInput, List.mem_cons, List.not_mem_nil, or_false] at hentry
    rcases hentry with rfl | rfl
    · exact hpos.le
    · cases party <;> simp [Party.mine, Party.account] at hmine

/-- Another party's payout. -/
theorem Calm.of_committed (hc : PayoutCommitted b job balance periodStart periodEnd b') (hm : b.Moves b')
    (hother : job.party ≠ party) : ∃ rows, Calm party b b' rows ∧ ∀ e ∈ rows, e.eventId.isPenalty = false := by
  obtain ⟨rows, hl, hnow, hpenalty, hmine, -, -⟩ := committed_rows party hc
  exact ⟨rows, ⟨hm.createdAt party, hc.clock ▸ Nat.le_succ _, cutoff_committed hc, fun _ => Taken.mono (committed_keeps hc),
    hl, hnow, fun e he => .inl (hmine hother e he)⟩, hpenalty⟩

/-- As the period was free, the party's other payouts have all left before the cutoff. -/
theorem Slots.settled (h : Slots party joined b) (hc : PayoutCommitted b job balance periodStart periodEnd b')
    (hmine : job.party = party) (hnext : periodStart = b.nextStart party joined) {p : Payout} (hp : p ∈ b.payouts)
    (hparty : p.party = party) : p.isSettling = true := by
  by_contra hs
  have hstart := h.pending p hp hparty (by simpa using hs)
  exact hc.fresh p hp ⟨hparty.trans hmine.symm, hstart.trans hnext.symm⟩

/-- The party's own payout: the window still covers it, as its period was not taken. -/
theorem PaidOnce.committed (h : PaidOnce party joined b) (hc : PayoutCommitted b job balance periodStart periodEnd b')
    (hm : b.Moves b') (hmine : job.party = party) (hnext : periodStart = b.nextStart party joined)
    (hended : periodEnd < b.clock) (hw : Worth party b balance.balanceXAF (some periodEnd)) :
    PaidOnce party joined b' := by
  obtain ⟨rows, hl, hnow, hpenalty, -, hdebits, hpositive⟩ := committed_rows party hc
  have hclock : b.clock ≤ b'.clock := hc.clock ▸ Nat.le_succ _
  have hrows : ∀ until?, -balance.balanceXAF ≤ leftXAF party (fun _ => true) until? rows := by
    intro until?
    have hcredits : 0 ≤ creditsXAF party (fun _ => true) rows := creditsXAF_nonneg rows
    have hnone : penaltiesXAF party (fun e => true && within until? e) rows = 0 :=
      tally_eq_zero fun e he hp => by simp [hpenalty e he] at hp
    rw [leftXAF, hdebits hmine, hnone]
    omega
  have hlater : ∀ until?, balance.balanceXAF ≤ leftXAF party (fun _ => true) until? b.ledger →
      0 ≤ leftXAF party (fun _ => true) until? b'.ledger := by
    intro until? hleft
    have hrows := hrows until?
    rw [hl, leftXAF_append]
    omega
  -- the new payout, and those that went before it
  have hnew : ∀ p ∈ b'.payouts, p.party = party → p ∈ b.payouts ∨ p.periodEnd = periodEnd := by
    intro p hp _
    rw [hc.payouts] at hp
    refine (List.mem_append.1 hp).imp_right fun hp => ?_
    rw [List.mem_singleton.1 hp]
    rfl
  refine ⟨fun t ht => h.createdAt t (hm.createdAt party ▸ ht), past_append h.stamped hl hclock hnow,
    fun e he hm hk => ?_, ?_, h.slots.committed hc fun _ => hnext, fun p hp hparty => ?_, fun p hp hparty => ?_,
    fun p hp hparty => ?_⟩
  · rw [hl] at he
    exact (List.mem_append.1 he).elim (fun he => h.positive e he hm hk) fun he => hpositive hw.positive e he hm
  · rw [payoutsXAF_committed hc, if_pos hmine, h.paid, hl, debitsXAF_append, hdebits hmine]
  all_goals rcases hnew p hp hparty with hold | hend
  · exact (h.ended p hold hparty).trans_le hclock
  · exact hend ▸ hended.trans_le hclock
  · exact (h.sound p hold hparty).append (h.ended p hold hparty) hl fun e he => (hnow e he).1
  · rw [hend]
    exact (hw.sound periodEnd rfl).append hended hl fun e he => (hnow e he).1
  · obtain ⟨t, hcut, hle⟩ := le_cutoff hold hparty (h.slots.settled hc hmine hnext hold hparty)
    refine hlater _ (h.fits_all (hw.fits.trans (leftXAF_until_le fun e _ hafter hin => ?_)))
    -- what was booked after the cutoff is later than this payout's end
    have hlate : t < e.createdAt := by simpa [hcut, isAfter] using hafter
    have hearly : e.createdAt ≤ p.periodEnd := by simpa [within] using hin
    exact absurd (hearly.trans hle) (not_le.2 hlate)
  · rw [hend]
    exact hlater _ (h.fits_all hw.fits)

end

/-! The machine. -/

/-- Only a transaction that fines the party books a penalty on it. -/
theorem booksEvent_fines {b : Books} {n : BooksEvent} {rows : Ledger} {e : LedgerEntry}
    (hl : (booksEvent b n).1.ledger = b.ledger ++ rows) (he : e ∈ rows) (hpenalty : e.eventId.isPenalty = true)
    (hmine : party.mine e = true) : ∃ x v, n = .order x ∧ party = .vendor v ∧ x.fines v := by
  have hquiet : (booksEvent b n).1.ledger ≠ b.ledger := fun h => by
    have hnil : rows = [] := List.append_right_eq_self.1 (hl.symm.trans h)
    rw [hnil] at he
    cases he
  have hpens := booksEvent_penalties b n
  cases (booksEvent_moves b n).journal with
  | quiet h => exact absurd h hquiet
  | status id x h => exact absurd (by rw [h]; rfl) hquiet
  | booked _ _ hm h =>
    obtain rfl := List.append_cancel_left (hl.symm.trans h)
    rw [eventId_of_mem_rows he] at hpenalty
    exact absurd hpenalty (by cases ‹EventId› <;> first | exact Bool.false_ne_true | cases hm)
  | @penalised row penaltyXAF _ hfresh hpen h =>
    obtain rfl := List.append_cancel_left (hl.symm.trans h)
    rcases hpens ⟨row.id, row.vendorId, row.id, penaltyXAF⟩ (by rw [hpen]; simp) with hold | ⟨x, hn, hx⟩
    · exact absurd rfl (hfresh _ hold)
    · refine ⟨x, row.vendorId, hn, ?_, hx⟩
      obtain ⟨entry, hentry, rfl⟩ := List.mem_map.1 he
      simp only [penaltyInput, List.mem_cons, List.not_mem_nil, or_false] at hentry
      rcases hentry with rfl | rfl <;> cases party <;>
        simp_all [Party.mine, Party.account, Party.owns]
  | paid h =>
    obtain rfl := List.append_cancel_left (hl.symm.trans (commitPayout_ok h).ledger)
    rw [eventId_of_mem_rows he, (payout_kind _).2] at hpenalty
    cases hpenalty

/-- An event that is no lock. -/
theorem Calm.of_event (party : Party) {b : Books} {n : BooksEvent} (hp : (booksEvent b n).1.payouts = b.payouts) :
    ∃ rows, Calm party b (booksEvent b n).1 rows ∧ ((∀ x v, n = .order x → party = .vendor v → ¬x.fines v) →
      ∀ e ∈ rows, party.mine e = true → e.eventId.isPenalty = false) := by
  have hcreated := (booksEvent_moves b n).createdAt party
  have htaken : ∀ t, Taken party b t → Taken party (booksEvent b n).1 t := fun _ =>
    Taken.mono fun p hmem => ⟨p, hp ▸ hmem, .refl p⟩
  obtain ⟨hclock, hl⟩ := booksEvent_ledger b n
  rcases hl with hl | ⟨hnext, input, id, hkind, hl⟩
  · exact ⟨[], .of_ledger_eq hcreated hclock (cutoff_congr hp) htaken hl, by simp⟩
  · refine ⟨_, ⟨hcreated, hclock, cutoff_congr hp, htaken, hl, fun e he => ⟨createdAt_of_mem_rows he, hnext ▸ Nat.lt_succ_self _⟩,
      fun e he => .inr (by rw [eventId_of_mem_rows he, hkind])⟩, fun hfine e he hmine => ?_⟩
    by_contra hpenalty
    obtain ⟨x, v, hn, hv, hx⟩ := booksEvent_fines hl he (by simpa using hpenalty) hmine
    exact hfine x v hn hv hx

/-- The party's pending payout is sent. -/
theorem PaidOnce.locked {b : Books} {id : PayoutId} (h : PaidOnce party joined b)
    (hslots : Slots party joined (b.writePayout id .lockRow)) : PaidOnce party joined (b.writePayout id .lockRow) := by
  have hold : ∀ p' ∈ (b.writePayout id .lockRow).payouts, p'.party = party →
      ∃ p ∈ b.payouts, p.party = party ∧ p'.periodEnd = p.periodEnd := by
    intro p' hp' hparty
    obtain ⟨p, hp, hs⟩ := mem_writePayout hp'
    exact ⟨p, hp, hs.party ▸ hparty, hs.periodEnd⟩
  refine ⟨h.createdAt, h.stamped, h.positive, (payoutsXAF_writePayout ..).trans h.paid, hslots, fun p' hp' hparty => ?_,
    fun p' hp' hparty => ?_, fun p' hp' hparty => ?_⟩
  all_goals obtain ⟨p, hp, hmine, hend⟩ := hold p' hp' hparty; rw [hend]
  · exact h.ended p hp hmine
  · exact h.sound p hp hmine
  · exact h.covered p hp hmine

/-- Once a payout fills the period, whoever was about to fill it will find it taken. -/
theorem Scheduler.Safe.taken {b b' : Books} {u : Scheduler} (hu : u.Safe party joined b) (hclock : b.clock ≤ b'.clock)
    (htaken : Taken party b' (b.nextStart party joined)) (hkeep : ∀ t, Taken party b t → Taken party b' t)
    (hreading : u.reading party → b'.nextStart party joined = b.nextStart party joined) : u.Safe party joined b' := by
  cases u with
  | checkKyc rider momoPhone scheduledFor => exact hu.trans_le hclock
  | readBalance job => exact fun s hs => (hu s hs).trans_le hclock
  | countDisputes job balance | readLastPayout job balance =>
    refine ⟨fun s hs => (hu.1 s hs).trans_le hclock, fun hj => .inr ?_⟩
    rw [hreading hj]
    exact htaken
  | findExisting job balance periodStart periodEnd | transact job balance periodStart periodEnd =>
    refine ⟨hu.1.trans_le hclock, fun hj => .inr ?_⟩
    rcases hu.2 hj with ⟨rfl, -⟩ | ht
    · exact htaken
    · exact hkeep _ ht
  | _ => trivial

theorem PaidOnce.event {b : Books} {us : List Scheduler} {n : BooksEvent} (h : PaidOnce party joined b)
    (hok : readsTogether party b us (.event n)) : PaidOnce party joined (booksEvent b n).1 ∧
      ∀ u ∈ us, u.Safe party joined b → u.Safe party joined (booksEvent b n).1 := by
  rcases booksEvent_payouts b n with hp | ⟨id, x, rfl⟩
  · obtain ⟨rows, hc, hfine⟩ := Calm.of_event party hp
    refine ⟨h.calm hc (by rw [hp]) (h.slots.congr hp) fun p hmem _ => ⟨p, hp ▸ hmem, .refl p⟩, fun u hu =>
      hc.safe fun hcashing => hfine fun x v hn hv hx => ?_⟩
    subst hn
    exact hok ⟨v, hv, hx⟩ u hu hcashing
  cases x with
  | lockRow =>
    have hsame : ∀ p' ∈ (b.writePayout id .lockRow).payouts, p'.party = party → ∃ p ∈ b.payouts, SamePayout p p' :=
      fun _ hp' _ => mem_writePayout hp'
    by_cases hmine : ∃ p ∈ b.payouts, p.id = id ∧ p.party = party ∧ p.isSettling = false
    · obtain ⟨p, hp, rfl, hparty, hpending⟩ := hmine
      obtain ⟨hslots, htaken⟩ := h.slots.lock_mine hp hparty hpending
      refine ⟨h.locked hslots, fun u hu hsafe => hsafe.taken le_rfl htaken
        (fun _ ht => ht.mono fun q hq => writePayout_keeps hq _ _) fun hreading => ?_⟩
      exact absurd hreading (hok ⟨p, hp, rfl, hparty, h.slots.status p hp hpending⟩ u hu)
    · have hother : ∀ p ∈ b.payouts, p.id = id → p.party = party → p.isSettling = true := fun p hp hid hparty => by
        by_contra hs
        exact hmine ⟨p, hp, hid, hparty, by simpa using hs⟩
      have hc : Calm party b (b.writePayout id .lockRow) [] := .of_ledger_eq rfl le_rfl (cutoff_lock_other hother)
        (fun _ => Taken.mono fun q hq => writePayout_keeps hq _ _) rfl
      exact ⟨h.calm hc (payoutsXAF_writePayout ..) (h.slots.lock_other hother) hsame, fun _ _ => hc.safe (by simp)⟩
  | _ => exact absurd hok (by simp [readsTogether])

theorem Scheduler.Safe.start {b : Books} {n : BooksEvent} {t : Scheduler} (ht : t ∈ (booksEvent b n).2) :
    t.Safe party joined (booksEvent b n).1 := by
  cases n with
  | tryScheduleVendorPayout vendor momoPhone elapsed =>
    obtain rfl := List.mem_singleton.1 ht
    intro s hs
    obtain rfl := Option.some.inj hs
    exact Nat.lt_succ_of_le (Nat.sub_le _ _)
  | tryScheduleRiderPayout rider momoPhone elapsed =>
    obtain rfl := List.mem_singleton.1 ht
    exact Nat.lt_succ_of_le (Nat.sub_le _ _)
  | approveCashoutRequest request adminUserId =>
    obtain rfl := List.mem_singleton.1 ht
    trivial
  | _ => cases ht

/-- The balance as it is read: everything up to the period's end is in it. -/
theorem PaidOnce.worth {b : Books} {job : PayoutJob} (h : PaidOnce party joined b)
    (hpos : 0 < (b.balance party).balanceXAF)
    (hearly : ∀ t, job.sweptAt = some t → ∀ e ∈ b.ledger, party.mine e = true → e.amountXAF < 0 → e.createdAt ≤ t) :
    Worth party b (b.balance party).balanceXAF job.sweptAt := by
  have hfits : Fits party b (b.balance party).balanceXAF none := balance_le_left b party
  refine ⟨hpos, hfits.trans (leftXAF_until_le fun _ _ _ _ => rfl), fun t ht => ?_⟩
  have hleft := h.fits_all hfits
  have hle : leftXAF party (fun _ => true) none b.ledger ≤ leftXAF party (upTo (some t)) none b.ledger :=
    leftXAF_le_of_credits (fun e he hm ha => upTo_iff.2 (hearly t ht e he hm ha)) h.positive
  unfold SoundAt
  omega

/-- A cashout's period ends now, and everything is in it. -/
theorem Worth.now {b : Books} {netXAF : ℤ} (h : Worth party b netXAF none) (hb : PaidOnce party joined b) :
    Worth party b netXAF (some b.clock) := by
  refine ⟨h.positive, h.fits.trans (leftXAF_until_le fun _ _ _ _ => rfl), fun t ht => ?_⟩
  obtain rfl := Option.some.inj ht
  have hleft := hb.fits_all h.fits
  have hle : leftXAF party (fun _ => true) none b.ledger ≤ leftXAF party (upTo (some b.clock)) none b.ledger :=
    leftXAF_le_of_credits (fun e he _ _ => upTo_iff.2 (hb.stamped e he).le) hb.positive
  have hpos := h.positive
  unfold SoundAt
  omega

theorem SchedulerMove.paidOnce {b b' : Books} {t t' : Scheduler} (hm : SchedulerMove b t b' t')
    (h : PaidOnce party joined b) (ht : t.Safe party joined b)
    (hearly : ∀ job, t = .readBalance job → job.party = party → ∀ s, job.sweptAt = some s →
      ∀ e ∈ b.ledger, party.mine e = true → e.amountXAF < 0 → e.createdAt ≤ s) :
    PaidOnce party joined b' ∧ t'.Safe party joined b' ∧
      ∀ u, Scheduler.Safe party joined b u → u.Safe party joined b' := by
  cases hm with
  | finish => exact ⟨h, trivial, fun _ hu => hu⟩
  | eligible rider momoPhone scheduledFor =>
    refine ⟨h, fun s hs => ?_, fun _ hu => hu⟩
    obtain rfl := Option.some.inj hs
    exact ht
  | requested => exact ⟨h, nofun, fun _ hu => hu⟩
  | @readBalance job next hpos hnext =>
    refine ⟨h, ?_, fun _ hu => hu⟩
    rcases hnext with rfl | rfl <;> refine ⟨ht, fun hp => .inl ?_⟩ <;>
      exact hp.symm ▸ h.worth (hp ▸ hpos) (hearly job rfl hp)
  | undisputed => exact ⟨h, ht, fun _ hu => hu⟩
  | @sweepPeriod job balance createdAt scheduledFor hcreated hswept =>
    refine ⟨h, ⟨ht.1 _ hswept, fun hp => ?_⟩, fun _ hu => hu⟩
    obtain rfl := h.createdAt _ (hp ▸ hcreated)
    rw [hp]
    exact (ht.2 hp).imp (fun hw => ⟨rfl, hswept ▸ hw⟩) fun ht => ht
  | @cashoutPeriod job balance createdAt hcreated hswept =>
    have hc : Calm party b { b with clock := b.clock + 1 } [] :=
      .of_ledger_eq (by cases party <;> rfl) (Nat.le_succ _) rfl (fun _ ht => ht) rfl
    refine ⟨h.calm hc rfl (h.slots.congr rfl) fun p hp _ => ⟨p, hp, .refl p⟩, ⟨Nat.lt_succ_self _, fun hp => ?_⟩,
      fun _ => hc.safe (by simp)⟩
    obtain rfl := h.createdAt _ (hp ▸ hcreated)
    rw [hp]
    refine (ht.2 hp).imp (fun hw => ⟨rfl, ?_⟩) fun ht => ht
    have hnow := Worth.now (hswept ▸ hw) h
    exact ⟨hnow.positive, hnow.fits, hnow.sound⟩
  | unscheduled => exact ⟨h, ht, fun _ hu => hu⟩
  | @schedule job balance periodStart periodEnd b' outcome hb' =>
    have hc := commitPayout_ok hb'
    have hmoves := (SchedulerMove.schedule outcome hb').moves
    have hclock : b.clock ≤ b'.clock := hc.clock ▸ Nat.le_succ _
    by_cases hmine : job.party = party
    · obtain ⟨hnext, hworth⟩ : periodStart = b.nextStart party joined ∧ Worth party b balance.balanceXAF (some periodEnd) := by
        rcases ht.2 hmine with hs | ⟨p, hp, hparty, hstart⟩
        · exact hs
        · exact absurd ⟨hparty.trans hmine.symm, hstart⟩ (hc.fresh p hp)
      -- from here on the period is taken
      have htaken : Taken party b' (b.nextStart party joined) := by
        refine ⟨_, by rw [hc.payouts]; exact List.mem_append_right _ (.head _), hmine, hnext⟩
      refine ⟨h.committed hc hmoves hmine hnext ht.1 hworth, trivial, fun u hu => hu.taken hclock htaken
        (fun _ => Taken.mono (committed_keeps hc)) fun _ => ?_⟩
      rw [Books.nextStart, cutoff_committed hc, Books.nextStart]
    · obtain ⟨rows, hcalm, hfine⟩ := Calm.of_committed hc hmoves hmine
      have hold : ∀ p' ∈ b'.payouts, p'.party = party → ∃ p ∈ b.payouts, SamePayout p p' := by
        intro p' hp' hparty
        rw [hc.payouts] at hp'
        rcases List.mem_append.1 hp' with hp' | hp'
        · exact ⟨p', hp', .refl p'⟩
        · obtain rfl := List.mem_singleton.1 hp'
          exact absurd hparty hmine
      refine ⟨h.calm hcalm ?_ (h.slots.committed hc fun hp => absurd hp hmine) hold, trivial,
        fun _ => hcalm.safe fun _ e he _ => hfine e he⟩
      rw [payoutsXAF_committed hc, if_neg hmine, add_zero]

/-- The end of the party's latest payout. -/
def Books.lastEnd (b : Books) (party : Party) : Option Time :=
  ((b.payouts.filter fun p => p.party = party).map (·.periodEnd)).max?

/-- What the invariant says of the sums. -/
theorem PaidOnce.within_credits {b : Books} (h : PaidOnce party joined b) : payoutsXAF party b.payouts ≤
    creditsXAF party (fun _ => true) b.ledger - penaltiesXAF party (upTo (b.lastEnd party)) b.ledger := by
  cases hlast : b.lastEnd party with
  | none =>
    have hempty : b.payouts.filter (fun p => p.party = party) = [] := by
      rwa [Books.lastEnd, List.max?_eq_none_iff, List.map_eq_nil_iff] at hlast
    have hcredits : 0 ≤ creditsXAF party (fun _ => true) b.ledger := creditsXAF_nonneg b.ledger
    have hpenalties : penaltiesXAF party (upTo none) b.ledger = 0 := tally_eq_zero fun e _ he => by simp [upTo, isAfter] at he
    rw [hpenalties, payoutsXAF, hempty]
    simpa using hcredits
  | some t =>
    obtain ⟨p, hp, rfl⟩ := List.mem_map.1 (List.max?_mem hlast)
    obtain ⟨hp, hparty⟩ := List.mem_filter.1 hp
    have hcovered := h.covered p hp (of_decide_eq_true hparty)
    have hwithin : penaltiesXAF party (fun e => true && within (some p.periodEnd) e) b.ledger =
        penaltiesXAF party (upTo (some p.periodEnd)) b.ledger := tally_congr fun e _ => by simp [within, upTo, isAfter]
    have hpaid := h.paid
    rw [leftXAF, hwithin] at hcovered
    omega

end OneParty

/-- While the worker never locks a payout of the party between a scheduler's two reads, and each
scheduler's balance and period see the same credits and penalties, what the party's payouts add up
to was credited to it, over and above the penalties up to the end of the latest of them. Later ones
come off later balances. -/
theorem payouts_within_credits {b₀ : Books} {q : Pool Books Scheduler} {party : Party} (hledger : b₀.ledger = [])
    (hpayouts : b₀.payouts = []) (h : booksMachine.Reach (readsTogether party) ⟨b₀, []⟩ q) :
    payoutsXAF party q.shared.payouts ≤ creditsXAF party (fun _ => true) q.shared.ledger -
        penaltiesXAF party (upTo (q.shared.lastEnd party)) q.shared.ledger ∧
      ((∀ e ∈ q.shared.ledger, party.mine e = true → e.eventId.isPenalty = true → upTo (q.shared.lastEnd party) e = true) →
        payoutsXAF party q.shared.payouts ≤ creditsXAF party (fun _ => true) q.shared.ledger -
          penaltiesXAF party (fun _ => true) q.shared.ledger) := by
  have hstart : PaidOnce party ((b₀.createdAt party).getD 0) b₀ := by
    refine ⟨fun t ht => by simp [ht], by simp [hledger], by simp [hledger], ?_, ⟨?_, ?_, ?_⟩, ?_, ?_, ?_⟩ <;>
      simp [hledger, hpayouts, payoutsXAF, debitsXAF]
  have hpaid := (h.sat (I := PaidOnce party ((b₀.createdAt party).getD 0))
    (L := fun b t => t.Safe party ((b₀.createdAt party).getD 0) b) (X := fun _ _ => True) (fun _ _ _ => trivial)
    ⟨hstart, by simp, .nil⟩ ?_ ?_).shared
  · have hbound := hpaid.within_credits
    refine ⟨hbound, fun hlast => ?_⟩
    have hall : penaltiesXAF party (fun _ => true) q.shared.ledger =
        penaltiesXAF party (upTo (q.shared.lastEnd party)) q.shared.ledger := tally_congr fun e he => by
      have hin := hlast e he
      cases hm : party.mine e <;> cases hk : e.eventId.isPenalty <;> simp_all
    rwa [hall]
  · intro b us n b' ts _ hb hus hok hev
    obtain ⟨rfl, rfl⟩ := booksMachine_event hev
    obtain ⟨hb', hsafe⟩ := hb.event hok
    refine ⟨hb', fun t ht => .start ht, fun u hu => hsafe u hu (hus u hu), List.pairwise_of_forall fun _ _ => trivial,
      fun _ _ _ _ => trivial⟩
  · intro b us vs t e b' ts _ hb ht hus hok hst
    obtain ⟨t', rfl, hm⟩ := booksMachine_step hst
    obtain ⟨hb', ht', hsafe⟩ := hm.paidOnce hb ht fun job hj => by
      subst hj
      exact hok
    exact .one hb' ht' fun u hu => ⟨hsafe u (hus u hu).1, trivial⟩

def readsTogetherB (party : Party) (b : Books) (us : List Scheduler) : Move Scheduler BooksEvent Reply → Bool
  | .event (.payout id .lockRow) =>
    !(b.payouts.any fun p => decide (p.id = id ∧ p.party = party ∧ p.status = .pending)) || us.all fun u =>
      match u with
      | .countDisputes job _ | .readLastPayout job _ => decide (job.party ≠ party)
      | _ => true
  | .event (.payout _ _) => false
  | .event (.order x) => us.isEmpty || match party with
    | .vendor v => !decide (x.fines v)
    | .rider _ => true
  | .step (.readBalance job) _ => decide (job.party ≠ party) || b.ledger.all fun e =>
    !(party.mine e && decide (e.amountXAF < 0)) || job.sweptAt.all fun t => decide (e.createdAt ≤ t)
  | _ => true

theorem readsTogether_of_readsTogetherB (party : Party) (b : Books) (us : List Scheduler)
    (m : Move Scheduler BooksEvent Reply) (h : readsTogetherB party b us m = true) : readsTogether party b us m := by
  unfold readsTogether
  split
  · intro ⟨p, hp, hid, hparty, hs⟩ u hu
    simp only [readsTogetherB, Bool.or_eq_true, Bool.not_eq_true', List.any_eq_false, List.all_eq_true] at h
    rcases h with h | h
    · exact absurd (decide_eq_true ⟨hid, hparty, hs⟩) (h p hp)
    · have hu := h u hu
      cases u with
      | countDisputes job balance | readLastPayout job balance =>
        have hne : job.party ≠ party := of_decide_eq_true hu
        exact hne
      | _ => exact fun h => h
  · rename_i hx
    simp only [readsTogetherB] at h
    cases h
  · rintro ⟨v, rfl, hx⟩ u hu
    have hne : us ≠ [] := List.ne_nil_of_mem hu
    simp [readsTogetherB, hx, hne] at h
  · intro hparty t ht e he hm ha
    simp only [readsTogetherB, Bool.or_eq_true, List.all_eq_true, Bool.not_eq_true', decide_eq_true_eq] at h
    rcases h with h | h
    · exact absurd hparty h
    · have he := h e he
      rcases he with he | he
      · simp [hm, ha] at he
      · rw [ht, Option.all_some] at he
        exact of_decide_eq_true he
  · trivial

/-- A second order of the vendor, for later. -/
def examplePreOrder : Order :=
  { exampleOrder with
    id := 2
    code := 101
    subtotalXAF := 5000
    totalXAF := 6000
    scheduledFor := some 100000000 }

/-- Both orders, and a vendor who asks for money. -/
def twoOrderBooks : Books :=
  { exampleBooks with
    orders := [exampleOrder, examplePreOrder]
    cashouts := [⟨1, 1, 1000, .pendingApproval, none, none, none, none, none⟩] }

/-- The later order is paid and accepted. -/
def preOrderDay : List (Act BooksEvent Reply) := [
  .event (.order (.payment examplePreOrder ⟨901, some "+237677000002"⟩ 1)), .event (.serve 2 (.write .acceptOrder))]

/-- The vendor cancels it, and owes a penalty. -/
def penaltyDay : List (Act BooksEvent Reply) := [.event (.order (.preOrderCancel examplePreOrder none 20))]

/-- The consumer has the money back. -/
def refundDay : List (Act BooksEvent Reply) := [
  .event (.order (.refundInitiated 2 examplePreOrder.totalXAF 902)),
  .event (.order (.refundSettled examplePreOrder 21))]

/-- A penalty of 600 comes off the payout, as it is earlier. -/
theorem single_payout_within_credits : ∃ q, booksMachine.Reach (readsTogether (.vendor 1)) ⟨twoOrderBooks, []⟩ q ∧
    payoutsXAF (.vendor 1) q.shared.payouts = 1200 ∧ 1200 ≤ creditsXAF (.vendor 1) (fun _ => true) q.shared.ledger -
      penaltiesXAF (.vendor 1) (upTo (q.shared.lastEnd (.vendor 1))) q.shared.ledger := by
  obtain ⟨q, hq, ht⟩ := booksMachine.reach_of_test (readsTogether (.vendor 1)) (readsTogetherB (.vendor 1))
    (readsTogether_of_readsTogetherB _) ⟨twoOrderBooks, []⟩ (preOrderDay ++ penaltyDay ++ refundDay ++ payoutDay)
    (fun q => decide (payoutsXAF (.vendor 1) q.shared.payouts = 1200)) (by decide +kernel)
  have hpaid := of_decide_eq_true ht
  exact ⟨q, hq, hpaid, hpaid ▸ (payouts_within_credits rfl rfl hq).1⟩

/-! Without the condition. -/

/-- The worker only locks. -/
def locksOnly : Guard Books Scheduler BooksEvent Reply := fun _ _ m =>
  match m with
  | .event (.payout _ x) => x = .lockRow
  | _ => True

def locksOnlyB (_ : Books) (_ : List Scheduler) : Move Scheduler BooksEvent Reply → Bool
  | .event (.payout _ .lockRow) => true
  | .event (.payout _ _) => false
  | _ => true

theorem locksOnly_of_locksOnlyB (b : Books) (us : List Scheduler) (m : Move Scheduler BooksEvent Reply)
    (h : locksOnlyB b us m = true) : locksOnly b us m := by
  unfold locksOnly
  split
  · next id x =>
    cases x with
    | lockRow => rfl
    | _ => cases h
  · trivial

/-- The vendor was paid more than it earned. -/
def Overpaid (earnedXAF paidXAF : ℤ) (b : Books) : Prop :=
  creditsXAF (.vendor 1) (fun _ => true) b.ledger - penaltiesXAF (.vendor 1) (fun _ => true) b.ledger = earnedXAF ∧
    payoutsXAF (.vendor 1) b.payouts = paidXAF

instance (earnedXAF paidXAF : ℤ) (b : Books) : Decidable (Overpaid earnedXAF paidXAF b) :=
  inferInstanceAs (Decidable (_ ∧ _))

theorem overpaid_of_test {earnedXAF paidXAF : ℤ} (as : List (Act BooksEvent Reply))
    (h : (booksMachine.run locksOnlyB ⟨twoOrderBooks, []⟩ as).map
      (fun q => decide (Overpaid earnedXAF paidXAF q.shared)) = some true) :
    ∃ q, booksMachine.Reach locksOnly ⟨twoOrderBooks, []⟩ q ∧ Overpaid earnedXAF paidXAF q.shared := by
  obtain ⟨q, hq, ht⟩ := booksMachine.reach_of_test locksOnly locksOnlyB locksOnly_of_locksOnlyB _ as _ h
  exact ⟨q, hq, of_decide_eq_true ht⟩

/-- One scheduler reads the balance; before it reads the last payout, another has
scheduled the same money and the worker has locked it. -/
def lockBetweenReads : List (Act BooksEvent Reply) := deliveryDay ++ [
  .event (.tryScheduleVendorPayout 1 "+237677000001" 0), .step 0 .ok,
  .event (.tryScheduleVendorPayout 1 "+237677000001" 0),
  .step 0 .ok, .step 0 .ok, .step 0 .ok, .step 0 .ok, .step 0 .ok,
  .event (.payout 0 .lockRow),
  .step 1 .ok, .step 0 .ok, .step 0 .ok, .step 0 .ok]

/-- The first order is delivered after the sweep started, and paid by it. The next balance has what
is left of the credit, and the penalty no more. -/
def deliveryDuringSweep : List (Act BooksEvent Reply) := preOrderDay ++ penaltyDay ++ refundDay ++ deliveryDay ++ [
  .event (.tryScheduleVendorPayout 1 "+237677000001" 2),
  .step 0 .ok, .step 0 .ok, .step 0 .ok, .step 0 .ok, .step 0 .ok,
  .event (.payout 0 .lockRow), .event (.tryScheduleVendorPayout 1 "+237677000001" 0),
  .step 0 .ok, .step 0 .ok, .step 0 .ok, .step 0 .ok, .step 0 .ok]

/-- The vendor is fined after its balance was read, and before the period ends. -/
def penaltyDuringCashout : List (Act BooksEvent Reply) := preOrderDay ++ deliveryDay ++ [
  .event (.approveCashoutRequest 1 9), .step 0 .ok, .step 0 .ok, .step 0 .ok] ++ penaltyDay ++ [
  .step 0 .ok, .step 0 .ok]

/-- By design, a penalty that comes after the payout. -/
def penaltyAfterPayout : List (Act BooksEvent Reply) := preOrderDay ++ payoutDay ++ penaltyDay

/-- Two schedulers pay the same earnings twice, and three penalties are not taken off a payout. -/
theorem payouts_exceed_earnings :
    (∃ q, booksMachine.Reach locksOnly ⟨twoOrderBooks, []⟩ q ∧ Overpaid 1800 3600 q.shared) ∧
    ∀ as ∈ [deliveryDuringSweep, penaltyDuringCashout, penaltyAfterPayout],
      ∃ q, booksMachine.Reach locksOnly ⟨twoOrderBooks, []⟩ q ∧ Overpaid 1200 1800 q.shared := by
  refine ⟨overpaid_of_test lockBetweenReads (by decide +kernel), fun as has => overpaid_of_test as ?_⟩
  simp only [List.mem_cons, List.not_mem_nil, or_false] at has
  rcases has with rfl | rfl | rfl <;> decide +kernel

end ChopNow
