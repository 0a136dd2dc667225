import Mathlib.Data.List.Basic

/-!
# Incremental parsers

A loop that feeds a parser with whatever each read brings, until the parser has a verdict or a
read fails. `parse` is the verdict on all that was fed, `none` while that is incomplete.

## Key results

- `feed_of_not_starves`: without a failed read only the bytes matter, not how they were cut
- `outcome_eq_iff`: two cuts of the same bytes
- `decides_iff`: the loop ends unless the stream does first
-/

namespace IncrementalParser

variable {α β ε : Type*} (parse : List α → Option β) (failed : ε → β)

/-- A verdict stays as it is whatever comes after. -/
def Stable : Prop :=
  ∀ fed more verdict, parse fed = some verdict → parse (fed ++ more) = some verdict

/-- Nothing is incomplete for ever. -/
def Bounded : Prop :=
  ∃ bound, ∀ fed, parse fed = none → fed.length < bound

/-- The loop feeds its parser, or has a verdict. -/
inductive State (α β : Type*) where
  | feeding (fed : List α)
  | decided (verdict : β)

/-- What the loop has come to. -/
def State.outcome : State α β → Option β
  | .feeding _ => none
  | .decided verdict => some verdict

/-- The loop over some reads, after `fed`. -/
def feed (fed : List α) : List (Except ε (List α)) → State α β
  | [] => .feeding fed
  | .error e :: _ => .decided (failed e)
  | .ok chunk :: reads =>
    match parse (fed ++ chunk) with
    | none => feed (fed ++ chunk) reads
    | some verdict => .decided verdict

/-- All that some reads bring. -/
def bytes : List (Except ε (List α)) → List α
  | [] => []
  | .error _ :: reads => bytes reads
  | .ok chunk :: reads => chunk ++ bytes reads

/-- The verdict on bytes that come at once. -/
def verdict (fed : List α) : State α β :=
  match parse fed with
  | none => .feeding fed
  | some verdict => .decided verdict

/-- A read fails before there is a verdict. -/
def Starves (fed : List α) : List (Except ε (List α)) → Prop
  | [] => False
  | .error _ :: _ => True
  | .ok chunk :: reads => parse (fed ++ chunk) = none ∧ Starves (fed ++ chunk) reads

variable {parse failed} {fed : List α} {reads reads' : List (Except ε (List α))}

/-- Reads bring their bytes one after the other. -/
theorem bytes_append : bytes (reads ++ reads') = bytes reads ++ bytes reads' := by
  induction reads with
  | nil => rfl
  | cons r reads ih =>
    cases r with
    | error e => exact ih
    | ok chunk =>
      show chunk ++ bytes (reads ++ reads') = chunk ++ bytes reads ++ bytes reads'
      rw [ih, List.append_assoc]

/-- The loop goes on over further reads unless it has a verdict. -/
theorem feed_append : feed parse failed fed (reads ++ reads') =
    match feed parse failed fed reads with
    | .feeding fed' => feed parse failed fed' reads'
    | .decided verdict => .decided verdict := by
  induction reads generalizing fed with
  | nil => rfl
  | cons r reads ih =>
    cases r with
    -- A failed read decides, and what comes later is not read
    | error e => rfl
    | ok chunk =>
      simp only [List.cons_append, feed]
      cases parse (fed ++ chunk) with
      | none => exact ih
      | some verdict => rfl

/-- Bytes before a verdict have none either. -/
theorem Stable.none_of_append (h : Stable parse) {more : List α}
    (hnone : parse (fed ++ more) = none) : parse fed = none := by
  cases hp : parse fed with
  | none => rfl
  | some verdict =>
    rw [h fed more verdict hp] at hnone
    cases hnone

/-- A verdict is not changed by bytes after it. -/
theorem Stable.verdict_append (h : Stable parse) {b : β} (hp : parse fed = some b)
    (more : List α) : verdict parse (fed ++ more) = .decided b := by
  rw [verdict, h fed more b hp]

/-! ## Cuts of the same bytes -/

/-- Without a failed read the verdict is that on all bytes at once. -/
theorem feed_of_not_starves (hstable : Stable parse) (hnone : parse fed = none)
    (h : ¬Starves parse fed reads) :
    feed parse failed fed reads = verdict parse (fed ++ bytes reads) := by
  induction reads generalizing fed with
  | nil => simp only [feed, bytes, List.append_nil, verdict, hnone]
  | cons r reads ih =>
    cases r with
    -- A read that fails while `fed` is incomplete starves the parser
    | error e => exact absurd trivial h
    | ok chunk =>
      rw [feed, bytes, ← List.append_assoc]
      cases hp : parse (fed ++ chunk) with
      | none =>
        have hrest : ¬Starves parse (fed ++ chunk) reads := fun hs => h ⟨hp, hs⟩
        exact ih hp hrest
      -- Decided here, and what comes later does not change it
      | some b => exact (hstable.verdict_append hp _).symm

variable (failed) in
/-- A read that fails in time decides. -/
theorem feed_of_starves (h : Starves parse fed reads) :
    ∃ e, .error e ∈ reads ∧ feed parse failed fed reads = .decided (failed e) := by
  induction reads generalizing fed with
  | nil => cases h
  | cons r reads ih =>
    cases r with
    | error e => exact ⟨e, List.mem_cons_self, rfl⟩
    | ok chunk =>
      obtain ⟨hp, hs⟩ := h
      obtain ⟨e, hmem, he⟩ := ih hs
      refine ⟨e, List.mem_cons_of_mem _ hmem, ?_⟩
      rw [feed, hp]
      exact he

/-- Bytes at once lead to what the parser says of them. -/
theorem outcome_verdict (fed : List α) : (verdict parse fed).outcome = parse fed := by
  rw [verdict]
  cases parse fed with
  | none => rfl
  | some b => rfl

/-- Two cuts of the same bytes, with the one way in which reads fail: they lead to the same
outcome unless just one of them starves. -/
theorem outcome_eq_iff (hstable : Stable parse) (hnil : parse [] = none) {e : ε}
    (hfailed : ∀ fed, parse fed ≠ some (failed e))
    (he : ∀ e', .error e' ∈ reads ++ reads' → e' = e) (hbytes : bytes reads = bytes reads') :
    (feed parse failed [] reads).outcome = (feed parse failed [] reads').outcome ↔
      (Starves parse [] reads ↔ Starves parse [] reads') := by
  -- A starved schedule ends in the one error that its reads may have
  have hstarved : ∀ {rs : List (Except ε (List α))}, (∀ r ∈ rs, r ∈ reads ++ reads') →
      Starves parse [] rs → (feed parse failed [] rs).outcome = some (failed e) := by
    intro rs hrs hs
    obtain ⟨e', hmem, hfeed⟩ := feed_of_starves failed hs
    rw [hfeed, he e' (hrs _ hmem)]
    rfl
  -- Any other ends as all of its bytes are parsed
  have hnot : ∀ {rs : List (Except ε (List α))}, ¬Starves parse [] rs →
      (feed parse failed [] rs).outcome = parse (bytes rs) := by
    intro rs hs
    rw [feed_of_not_starves hstable hnil hs, outcome_verdict]
    rfl
  have hleft : Starves parse [] reads → _ := hstarved fun _ => List.mem_append_left _
  have hright : Starves parse [] reads' → _ := hstarved fun _ => List.mem_append_right _
  by_cases hs : Starves parse [] reads
  · by_cases hs' : Starves parse [] reads'
    · rw [hleft hs, hright hs']
      exact ⟨fun _ => ⟨fun _ => hs', fun _ => hs⟩, fun _ => rfl⟩
    · -- one starves only: it fails, and what the other parses to is no failure
      rw [hleft hs, hnot hs']
      exact ⟨fun heq => absurd heq.symm (hfailed _), fun hiff => absurd (hiff.mp hs) hs'⟩
  · by_cases hs' : Starves parse [] reads'
    · rw [hright hs', hnot hs]
      exact ⟨fun heq => absurd heq (hfailed _), fun hiff => absurd (hiff.mpr hs') hs⟩
    · rw [hnot hs, hnot hs', hbytes]
      exact ⟨fun _ => ⟨fun h => absurd h hs, fun h => absurd h hs'⟩, fun _ => rfl⟩

/-! ## Endless reads -/

/-- The first `n` reads. -/
def firstReads (r : Nat → Except ε (List α)) (n : Nat) : List (Except ε (List α)) :=
  (List.range n).map r

theorem firstReads_succ (r : Nat → Except ε (List α)) (n : Nat) :
    firstReads r (n + 1) = firstReads r n ++ [r n] := by
  simp [firstReads, List.range_succ]

/-- The loop ends: at some time there is a verdict, or a read has failed. -/
def Decides (parse : List α → Option β) (failed : ε → β) (r : Nat → Except ε (List α)) : Prop :=
  ∃ n b, feed parse failed [] (firstReads r n) = .decided b

/-- The stream ends, with nothing more to read from then on, and what it brought is
incomplete. -/
def EndsEarly (parse : List α → Option β) (r : Nat → Except ε (List α)) : Prop :=
  ∃ n, (∀ m < n, ∃ chunk, r m = .ok chunk) ∧ r n = .ok [] ∧ parse (bytes (firstReads r n)) = none

section Endless

variable {r : Nat → Except ε (List α)} {n : Nat}

/-- While there is no verdict, the reads have brought bytes, and those are incomplete. -/
theorem feeding_of_not_decides (hnil : parse [] = none) (h : ¬Decides parse failed r) (n : Nat) :
    (∃ chunk, r n = .ok chunk) ∧
      feed parse failed [] (firstReads r n) = .feeding (bytes (firstReads r n)) ∧
      parse (bytes (firstReads r n)) = none := by
  -- An undecided loop has just read something, and that is still incomplete
  have hsucc : ∀ n, feed parse failed [] (firstReads r n) =
      .feeding (bytes (firstReads r n)) →
      ∃ chunk, r n = .ok chunk ∧ parse (bytes (firstReads r (n + 1))) = none := by
    intro n hfeeding
    have hnot : ∀ b, feed parse failed [] (firstReads r (n + 1)) ≠ .decided b :=
      fun b hb => h ⟨n + 1, b, hb⟩
    rw [firstReads_succ, feed_append, hfeeding] at hnot
    rw [firstReads_succ, bytes_append]
    cases hr : r n with
    | error e =>
      rw [hr] at hnot
      exact absurd rfl (hnot (failed e))
    | ok chunk =>
      rw [hr] at hnot
      refine ⟨chunk, rfl, ?_⟩
      simp only [feed] at hnot
      show parse (bytes (firstReads r n) ++ (chunk ++ [])) = none
      rw [List.append_nil]
      cases hp : parse (bytes (firstReads r n) ++ chunk) with
      | none => rfl
      | some b =>
        rw [hp] at hnot
        exact absurd rfl (hnot b)
  have hfeeding : feed parse failed [] (firstReads r n) = .feeding (bytes (firstReads r n)) ∧
      parse (bytes (firstReads r n)) = none := by
    -- So it is feeding after every number of reads, by induction on that number
    induction n with
    | zero => exact ⟨rfl, hnil⟩
    | succ n ih =>
      obtain ⟨chunk, hr, hp⟩ := hsucc n ih.1
      refine ⟨?_, hp⟩
      rw [firstReads_succ, bytes_append, hr] at hp
      rw [firstReads_succ, feed_append, ih.1, bytes_append, hr]
      have hp : parse (bytes (firstReads r n) ++ chunk) = none := by
        rw [← List.append_nil chunk]
        exact hp
      simp only [feed, bytes, hp, List.append_nil]
  obtain ⟨chunk, hr, -⟩ := hsucc n hfeeding.1
  exact ⟨⟨chunk, hr⟩, hfeeding⟩

/-- After the end of the stream nothing more is brought. -/
theorem bytes_of_end (hend : ∀ m, n ≤ m → r m = .ok []) {m : Nat} (h : n ≤ m) :
    bytes (firstReads r m) = bytes (firstReads r n) := by
  induction h with
  | refl => rfl
  | step hm ih =>
    rw [firstReads_succ, bytes_append, hend _ hm, ih]
    exact List.append_nil _

/-- What was read before is the first of what is read. -/
theorem bytes_prefix {m : Nat} (h : m ≤ n) :
    ∃ more, bytes (firstReads r n) = bytes (firstReads r m) ++ more := by
  induction h with
  | refl => exact ⟨[], (List.append_nil _).symm⟩
  | @step k hk ih =>
    obtain ⟨more, hmore⟩ := ih
    refine ⟨more ++ bytes [r k], ?_⟩
    rw [firstReads_succ, bytes_append, hmore, List.append_assoc]

/-- A stream that ends with what it brought incomplete keeps the loop going. -/
theorem not_decides_of_endsEarly (hstable : Stable parse)
    (hend : ∀ n, r n = .ok [] → ∀ m, n ≤ m → r m = .ok []) (h : EndsEarly parse r) :
    ¬Decides parse failed r := by
  obtain ⟨n, hok, hn, hp⟩ := h
  -- Nothing is decided by the early end, and nothing comes after it
  have hparse : ∀ m, parse (bytes (firstReads r m)) = none := by
    intro m
    by_cases hm : m ≤ n
    · obtain ⟨more, hmore⟩ := bytes_prefix (r := r) hm
      rw [hmore] at hp
      exact hstable.none_of_append hp
    · rw [bytes_of_end (hend n hn) (by omega)]
      exact hp
  have hreads : ∀ m, ∃ chunk, r m = .ok chunk := by
    intro m
    by_cases hm : m < n
    · exact hok m hm
    · exact ⟨[], hend n hn m (by omega)⟩
  -- So every read is one more turn of the loop
  have hfeeding : ∀ m, feed parse failed [] (firstReads r m) =
      .feeding (bytes (firstReads r m)) := by
    intro m
    induction m with
    | zero => rfl
    | succ m ih =>
      obtain ⟨chunk, hr⟩ := hreads m
      have hnext := hparse (m + 1)
      rw [firstReads_succ, bytes_append, hr] at hnext
      rw [firstReads_succ, feed_append, ih, bytes_append, hr]
      have hnext : parse (bytes (firstReads r m) ++ chunk) = none := by
        rw [← List.append_nil chunk]
        exact hnext
      simp only [feed, bytes, hnext, List.append_nil]
  rintro ⟨m, b, hm⟩
  rw [hfeeding m] at hm
  cases hm

/-- The loop ends unless the stream does while what it brought is incomplete. -/
theorem decides_iff (hstable : Stable parse) (hbounded : Bounded parse) (hnil : parse [] = none)
    (hend : ∀ n, r n = .ok [] → ∀ m, n ≤ m → r m = .ok []) :
    Decides parse failed r ↔ ¬EndsEarly parse r := by
  constructor
  · intro h hearly
    exact not_decides_of_endsEarly hstable hend hearly h
  · intro hearly
    by_contra h
    have hfeeding := feeding_of_not_decides hnil h
    -- Every read brings something, so what is incomplete would grow without bound
    have hgrows : ∀ n, n ≤ (bytes (firstReads r n)).length := by
      intro n
      induction n with
      | zero => exact Nat.zero_le _
      | succ n ih =>
        obtain ⟨⟨chunk, hr⟩, -, hp⟩ := hfeeding n
        have hne : chunk ≠ [] := by
          rintro rfl
          exact hearly ⟨n, fun m _ => (hfeeding m).1, hr, hp⟩
        have hpos := List.length_pos_iff.mpr hne
        rw [firstReads_succ, bytes_append, hr, List.length_append]
        simp only [bytes, List.append_nil]
        omega
    obtain ⟨bound, hbound⟩ := hbounded
    have hlt := hbound _ (hfeeding bound).2.2
    have hle := hgrows bound
    omega

end Endless

end IncrementalParser
