import LocalRecords.Proofs.Server.Isolation

/-!
Who holds a descriptor that came on a connection. The handler of a connection takes in what a read
brought and then asks for one record after the other. Between any two of its moves a descriptor that
has come was handed on or waits, in the order in which they came, and never both.
-/

namespace LocalRecords.Connection

variable {δ : Type}

inductive Move (δ : Type)
  /-- It takes in the bytes and descriptors that a read brought. -/
  | read (r : Bytes × List δ)
  /-- It asks for the next record and hands it on, if it is there as a whole. -/
  | next
  deriving DecidableEq, Repr

def Move.read? : Move δ → Option (Bytes × List δ)
  | read r => some r
  | next => none

def act (c : Connection δ) : Move δ → Option (Delivery δ) × Connection δ
  | .read r => (none, { c with decoder := c.decoder.push r.1, queue := c.queue ++ r.2 })
  | .next =>
    match c.decoder.decode with
    | .error _ => (none, c)
    | .ok none => (none, c)
    | .ok (some (record, decoder)) =>
      let claimed := claim record.header.type c.queue
      (some ⟨record, claimed.1⟩, ⟨decoder, claimed.2, c.records + 1⟩)

def play (c : Connection δ) : List (Move δ) → List (Delivery δ) × Connection δ
  | [] => ([], c)
  | m :: moves =>
    let first := c.act m
    let rest := first.2.play moves
    (first.1.toList ++ rest.1, rest.2)

/-- The moves that some reads lead to. After each read records are asked for until none is there; a
read that brings what is no record is the last. -/
def moves (c : Connection δ) : List (Bytes × List δ) → List (Move δ)
  | [] => []
  | r :: rs =>
    let first := c.receive r.1 r.2
    let asked := .read r :: List.replicate (first.deliveries.length + 1) .next
    if first.error.isSome then asked else asked ++ first.connection.moves rs

theorem act_next_of_record {c : Connection δ} {record : WireRecord} {decoder : Decoder}
    (h : c.decoder.decode = .ok (some (record, decoder))) :
    let claimed := claim record.header.type c.queue
    c.act .next = (some ⟨record, claimed.1⟩, ⟨decoder, claimed.2, c.records + 1⟩) := by
  rw [act, h]

theorem act_next_of_none {c : Connection δ} (h : c.decoder.decode = .ok none) :
    c.act .next = (none, c) := by
  rw [act, h]

theorem act_next_of_error {c : Connection δ} {e : Failure} (h : c.decoder.decode = .error e) :
    c.act .next = (none, c) := by
  rw [act, h]

/-- A move takes the descriptors that it hands on from the front, and adds what comes at the end. -/
theorem act_journals (c : Connection δ) (m : Move δ) :
    (c.act m).1.toList.filterMap Delivery.journal ++ (c.act m).2.queue =
      c.queue ++ m.read?.toList.flatMap Prod.snd := by
  cases m with
  | read r =>
    rw [act, Move.read?, Option.toList_some, List.flatMap_singleton]
    rfl
  | next =>
    rw [Move.read?, Option.toList_none, List.flatMap_nil, List.append_nil]
    rcases hdec : c.decoder.decode with e | found
    · rw [act_next_of_error hdec]
      rfl
    rcases found with _ | ⟨record, decoder⟩
    · rw [act_next_of_none hdec]
      rfl
    · rw [act_next_of_record hdec]
      have hclaim := claim_journals record.header.type c.queue
      generalize claim record.header.type c.queue = claimed at hclaim ⊢
      obtain ⟨_ | d, left⟩ := claimed
      · exact hclaim
      · exact hclaim

/-- A record that passes a journal takes the oldest descriptor that waits; no other takes one. -/
theorem act_claims {c : Connection δ} {m : Move δ} {d : Delivery δ} (h : (c.act m).1 = some d) :
    d.journal = if d.record.header.type = .passedJournal then c.queue.head? else none := by
  cases m with
  | read r => cases h
  | next =>
    rcases hdec : c.decoder.decode with e | found
    · rw [act_next_of_error hdec] at h
      cases h
    rcases found with _ | ⟨record, decoder⟩
    · rw [act_next_of_none hdec] at h
      cases h
    · rw [act_next_of_record hdec] at h
      cases h
      dsimp only [claim]
      split
      · rfl
      · rfl

theorem play_append (c : Connection δ) (earlier later : List (Move δ)) :
    c.play (earlier ++ later) =
      let now := c.play earlier
      let rest := now.2.play later
      (now.1 ++ rest.1, rest.2) := by
  induction earlier generalizing c with
  | nil => rfl
  | cons m earlier ih =>
    rw [List.cons_append, play, ih, play]
    dsimp only
    rw [List.append_assoc]

/-- Whatever moves are made, each descriptor that came was handed on once or waits. -/
theorem play_journals (c : Connection δ) (moves : List (Move δ)) :
    (c.play moves).1.filterMap Delivery.journal ++ (c.play moves).2.queue =
      c.queue ++ (moves.filterMap Move.read?).flatMap Prod.snd := by
  induction moves generalizing c with
  | nil =>
    rw [List.filterMap_nil, List.flatMap_nil, List.append_nil]
    rfl
  | cons m moves ih =>
    have hcome : (m :: moves).filterMap Move.read? =
        m.read?.toList ++ moves.filterMap Move.read? := by
      cases m with
      | read r => rfl
      | next => rfl
    rw [hcome, List.flatMap_append, ← List.append_assoc, ← act_journals, play]
    dsimp only
    rw [List.filterMap_append, List.append_assoc, List.append_assoc, ih]

/-- A record whose type passes no journal is handed on without a descriptor. -/
theorem play_claims {c : Connection δ} {moves : List (Move δ)} {d : Delivery δ}
    (hd : d ∈ (c.play moves).1) (htype : d.record.header.type ≠ .passedJournal) :
    d.journal = none := by
  induction moves generalizing c with
  | nil => cases hd
  | cons m moves ih =>
    rw [play] at hd
    rcases List.mem_append.mp hd with hfirst | hrest
    · rw [act_claims (Option.mem_toList.mp hfirst), if_neg htype]
    · exact ih hrest

/-- Asking once more than there are records hands all of them on. -/
theorem play_asked (c : Connection δ) :
    c.play (List.replicate (c.handOn.deliveries.length + 1) .next) =
      (c.handOn.deliveries, c.handOn.connection) := by
  fun_induction handOn c with
  | case1 c e h =>
    rw [List.length_nil, List.replicate_succ, play, act_next_of_error h]
    rfl
  | case2 c h =>
    rw [List.length_nil, List.replicate_succ, play, act_next_of_none h]
    rfl
  | case3 c record decoder h claimed rest ih =>
    rw [List.length_cons, List.replicate_succ, play, act_next_of_record h]
    dsimp only
    rw [ih]
    rfl

/-- A read followed by enough requests hands on what the read brings at once. -/
theorem play_read_asked (c : Connection δ) (r : Bytes × List δ) :
    c.play (.read r :: List.replicate ((c.receive r.1 r.2).deliveries.length + 1) .next) =
      ((c.receive r.1 r.2).deliveries, (c.receive r.1 r.2).connection) := by
  rw [play, receive]
  exact play_asked _

/-- The moves of a handler do what its connection does with the reads. -/
theorem play_moves (c : Connection δ) (reads : List (Bytes × List δ)) :
    c.play (c.moves reads) =
      ((c.receiveAll reads).deliveries, (c.receiveAll reads).connection) := by
  induction reads generalizing c with
  | nil => rfl
  | cons r rs ih =>
    rw [moves]
    cases herr : (c.receive r.1 r.2).error with
    | some e =>
      rw [receiveAll_of_error herr]
      exact c.play_read_asked r
    | none =>
      rw [receiveAll_of_ok herr, Option.isSome_none, if_neg Bool.false_ne_true, play_append,
        play_read_asked]
      dsimp only
      rw [ih]

/-- The moves work off the reads in order, up to the one that brings what is no record. -/
theorem reads_moves (c : Connection δ) (reads : List (Bytes × List δ)) :
    (c.moves reads).filterMap Move.read? <+: reads := by
  have hasked (r : Bytes × List δ) (n : Nat) :
      (.read r :: List.replicate n .next : List (Move δ)).filterMap Move.read? = [r] := by
    have hnext : (List.replicate n .next : List (Move δ)).filterMap Move.read? = [] :=
      List.filterMap_replicate_of_none rfl
    rw [List.filterMap_cons_some (f := Move.read?) rfl, hnext]
  induction reads generalizing c with
  | nil => exact List.prefix_rfl
  | cons r rs ih =>
    rw [moves]
    split
    · rw [hasked]
      exact ⟨rs, rfl⟩
    · rw [List.filterMap_append, hasked]
      exact (List.prefix_cons_inj r).mpr (ih _)

/-- Whatever bytes and descriptors the reads of a connection bring, at every point between two moves
of its handler: what was handed on, in the order of the calls, and what waits are the descriptors of
the reads up to there, in the order in which they came. Only a record that passes a journal is
handed on with one, and it is the oldest that waits; it goes without if none does. -/
theorem play_keeps_descriptors (limits : Limits) (reads : List (Bytes × List δ)) :
    let c : Connection δ := new limits
    let whole := c.receiveAll reads
    c.play (c.moves reads) = (whole.deliveries, whole.connection) ∧
      ∀ earlier later, c.moves reads = earlier ++ later →
        let now := c.play earlier
        let come := earlier.filterMap Move.read?
        come <+: reads ∧ now.1 <+: whole.deliveries ∧
          now.1.filterMap Delivery.journal ++ now.2.queue = come.flatMap Prod.snd ∧
          (∀ d ∈ now.1, d.record.header.type ≠ .passedJournal → d.journal = none) ∧
          ∀ m ∈ later.head?, ∀ d ∈ (now.2.act m).1,
            d.journal =
              if d.record.header.type = .passedJournal then now.2.queue.head? else none := by
  intro c whole
  have hwhole : c.play (c.moves reads) = (whole.deliveries, whole.connection) := c.play_moves reads
  refine ⟨hwhole, ?_⟩
  intro earlier later hsplit now come
  have hcome : come <+: reads := by
    have hall := c.reads_moves reads
    rw [hsplit, List.filterMap_append] at hall
    exact (List.prefix_append _ _).trans hall
  have hcalls : now.1 <+: whole.deliveries := by
    rw [hsplit, play_append] at hwhole
    exact ⟨_, congrArg Prod.fst hwhole⟩
  exact ⟨hcome, hcalls, c.play_journals earlier, fun d hd => play_claims hd,
    fun m _ d hd => act_claims hd⟩

/-- Two descriptors come with a record that passes none and with a part of the next. Three records
claim one; then comes what is no record, with one that nobody claims. -/
theorem play_keeps_descriptors_overclaimed :
    let c : Connection Nat := new {}
    let log := Record.inline .log [7] []
    let journal := Record.behindDescriptor 4096 []
    let reads :=
      [(log.encode ++ journal.encode.take 10, [1, 2]),
        (journal.encode.drop 10 ++ journal.encode ++ journal.encode, []),
        (List.replicate 20 9, [3]), (journal.encode, [4])]
    let earlier := (c.moves reads).take 6
    let later := (c.moves reads).drop 6
    let now := c.play earlier
    c.moves reads = earlier ++ later ∧
      now.1.filterMap Delivery.journal ++ now.2.queue = [1, 2] ∧
      (now.2.queue = [] ∧ later.head? = some .next ∧
        (now.2.act .next).1 = some ⟨journal.received, none⟩ ∧
        (c.receiveAll reads).connection.queue = [3]) := by
  intro c log journal reads earlier later now
  have hsplit : c.moves reads = earlier ++ later := (List.take_append_drop 6 _).symm
  obtain ⟨-, hpoint⟩ := play_keeps_descriptors {} reads
  obtain ⟨-, -, hjournals, -, -⟩ := hpoint earlier later hsplit
  have hcome : (earlier.filterMap Move.read?).flatMap Prod.snd = [1, 2] := by decide +kernel
  exact ⟨hsplit, hjournals.trans hcome, by decide +kernel⟩

end LocalRecords.Connection
