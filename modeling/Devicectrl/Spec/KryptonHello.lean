import Mathlib.Data.List.Induction
import Devicectrl.ForStd.IncrementalParser
import Devicectrl.Native.KryptonHello
import Devicectrl.Spec.KryptonConn

/-!
# The client hello of a Krypton connection

When the loop that collects the client hello ends, what it decides, and what it leaves for the TLS
handshake. `rustls` decides on the bytes that it has been fed.

## Key results

- `helloEnds_iff`: the loop ends unless the peer closes its side too early
- `decision_eq_iff`: what two arrivals of the same bytes lead to
- `handshake_misses`: what is left for the handshake is never the whole stream
-/

namespace Devicectrl.Krypton

/-! ## The acceptor of `rustls` -/

/-- Fed with these bytes, the acceptor asks for more. -/
def Env.Incomplete (env : Env) (fed : List UInt8) : Prop :=
  env.readTls fed = .ok () ∧ env.accept fed = .ok none

/-- Bytes that are not an incomplete hello stay what they are, whatever comes after. -/
def Env.Incremental (env : Env) : Prop :=
  ∀ fed more, ¬env.Incomplete fed →
    env.readTls (fed ++ more) = env.readTls fed ∧ env.accept (fed ++ more) = env.accept fed

/-- A hello has a greatest length. -/
def Env.Bounded (env : Env) : Prop :=
  ∃ bound, ∀ fed, env.Incomplete fed → fed.length < bound

namespace Conn

variable {env : Env} {globalConfig : KryptonControllerGlobalConfig}
  {deviceCerts : AList fun _ : DeviceId => List UInt8} {fed acceptor : List UInt8}

/-- The decision of the hello phase: the device with its TLS configuration, or an error. -/
def decision : Stage → Option (Except Error (DeviceId × ServerConfig))
  | .handshake deviceId tlsConfig => some (.ok (deviceId, tlsConfig))
  | .returned _ _ (.error e) => some (.error e)
  | _ => none

/-- An incomplete hello is read on. -/
theorem feed_of_incomplete (h : env.Incomplete fed) :
    feed env globalConfig deviceCerts fed = .hello fed := by
  simp only [feed, h.1, h.2]

/-- Bytes that are not an incomplete hello are decided on. -/
theorem feed_cases (h : ¬env.Incomplete fed) :
    (∃ deviceId tlsConfig hello, feed env globalConfig deviceCerts fed =
      .handshake deviceId tlsConfig ∧ env.accept fed = .ok (some hello)) ∨
    ∃ e, feed env globalConfig deviceCerts fed = .returned none [] (.error e) := by
  rw [feed]
  -- Both calls of the loop body, and what the second has made of the bytes
  cases hread : env.readTls fed with
  | error e => exact .inr ⟨e, rfl⟩
  | ok u =>
    simp only
    cases haccept : env.accept fed with
    | error e => exact .inr ⟨_, rfl⟩
    | ok accepted =>
      cases accepted with
      -- Nothing failed and nothing is there: that is incomplete
      | none => exact absurd ⟨hread, haccept⟩ h
      | some hello =>
        simp only
        -- The device is not one of the names, or its certificate is not usable
        split
        · exact .inr ⟨_, rfl⟩
        · split
          · exact .inr ⟨_, rfl⟩
          · exact .inl ⟨_, _, hello, rfl, rfl⟩

/-- Nothing has been decided exactly while the hello is incomplete. -/
theorem decision_feed_eq_none_iff :
    decision (feed env globalConfig deviceCerts fed) = none ↔ env.Incomplete fed := by
  constructor
  · intro hnone
    by_contra h
    -- A complete hello is decided, either way
    rcases @feed_cases _ globalConfig deviceCerts _ h with
      ⟨deviceId, tlsConfig, hello, hf, -⟩ | ⟨e, hf⟩
    · rw [hf] at hnone
      cases hnone
    · rw [hf] at hnone
      cases hnone
  · intro h
    rw [feed_of_incomplete h]
    rfl

/-! ## The loop as one that feeds an incremental parser -/

variable (env globalConfig deviceCerts) in
/-- The decision on some bytes, none while they are an incomplete hello. -/
def decide? (fed : List UInt8) : Option (Except Error (DeviceId × ServerConfig)) :=
  decision (feed env globalConfig deviceCerts fed)

/-- Nothing is decided before the first byte. -/
theorem decide?_nil (h : env.Incomplete []) : decide? env globalConfig deviceCerts [] = none :=
  decision_feed_eq_none_iff.mpr h

/-- Once it has been decided, no later byte changes the decision. -/
theorem decide?_stable (h : env.Incremental) :
    IncrementalParser.Stable (decide? env globalConfig deviceCerts) := by
  intro fed more outcome hdecided
  -- A decision is only made on a hello that is complete, or is none
  have hfed : ¬env.Incomplete fed := fun hincomplete => by
    rw [decide?, decision_feed_eq_none_iff.mpr hincomplete] at hdecided
    cases hdecided
  obtain ⟨hread, haccept⟩ := h fed more hfed
  have hsame : feed env globalConfig deviceCerts (fed ++ more) =
      feed env globalConfig deviceCerts fed := by
    -- What is decided on is read and accepted in the same way with more after it
    rw [feed, feed, hread, haccept]
    cases hread' : env.readTls fed with
    | error e => rfl
    | ok u =>
      cases haccept' : env.accept fed with
      | error e => rfl
      | ok accepted =>
        cases accepted with
        | none => exact absurd ⟨hread', haccept'⟩ hfed
        | some hello => rfl
  rw [decide?, hsame]
  exact hdecided

/-- A decision comes within the bound of the acceptor. -/
theorem decide?_bounded (h : env.Bounded) :
    IncrementalParser.Bounded (decide? env globalConfig deviceCerts) := by
  obtain ⟨bound, hbound⟩ := h
  exact ⟨bound, fun fed hnone => hbound fed (decision_feed_eq_none_iff.mp hnone)⟩

/-- The loop decides as the loop that feeds the parser. -/
theorem decision_helloLoop (reads : List (Except Error (List UInt8))) :
    decision (helloLoop env globalConfig deviceCerts acceptor reads) =
      (IncrementalParser.feed (decide? env globalConfig deviceCerts) .error acceptor
        reads).outcome := by
  induction reads generalizing acceptor with
  | nil => rfl
  | cons result reads ih =>
    rw [helloLoop]
    cases result with
    | error e => rfl
    | ok bytes =>
      simp only [helloTurn, IncrementalParser.feed]
      -- Both go on as long as the hello is incomplete, and stop together
      by_cases h : env.Incomplete (acceptor ++ bytes)
      · have hnone : decide? env globalConfig deviceCerts (acceptor ++ bytes) = none :=
          decision_feed_eq_none_iff.mpr h
        rw [feed_of_incomplete h, hnone]
        exact ih
      · rcases feed_cases h with ⟨deviceId, tlsConfig, hello, hf, -⟩ | ⟨e, hf⟩
        · have hsome : decide? env globalConfig deviceCerts (acceptor ++ bytes) =
              some (.ok (deviceId, tlsConfig)) := by
            rw [decide?, hf]
            rfl
          rw [hf, hsome]
          rfl
        · have hsome : decide? env globalConfig deviceCerts (acceptor ++ bytes) =
              some (.error e) := by
            rw [decide?, hf]
            rfl
          rw [hf, hsome]
          rfl

/-! ## When the loop ends -/

/-- After finitely many turns there is an accepted hello or an error. -/
def HelloEnds (env : Env) (globalConfig : KryptonControllerGlobalConfig)
    (deviceCerts : AList fun _ : DeviceId => List UInt8)
    (reads : Nat → Except Error (List UInt8)) : Prop :=
  ∃ n outcome, decision (helloLoop env globalConfig deviceCerts []
    ((List.range n).map reads)) = some outcome

/-- Every read finds bytes, until the peer closes its side, with its hello incomplete. -/
def ClosesEarly (env : Env) (reads : Nat → Except Error (List UInt8)) : Prop :=
  ∃ n, (∀ m < n, ∃ bytes, reads m = .ok bytes) ∧ reads n = .ok [] ∧
    env.Incomplete (IncrementalParser.bytes ((List.range n).map reads))

/-- The connection's own `HelloEnds` is that of the incremental parser. -/
theorem helloEnds_iff_decides {reads : Nat → Except Error (List UInt8)} :
    HelloEnds env globalConfig deviceCerts reads ↔
      IncrementalParser.Decides (decide? env globalConfig deviceCerts) .error reads := by
  constructor
  · rintro ⟨n, outcome, h⟩
    rw [decision_helloLoop] at h
    refine ⟨n, outcome, ?_⟩
    cases hfeed : IncrementalParser.feed (decide? env globalConfig deviceCerts) .error []
        ((List.range n).map reads) with
    -- `decision` is the outcome of the state
    | feeding fed =>
      rw [hfeed] at h
      cases h
    | decided verdict =>
      rw [hfeed] at h
      cases h
      exact hfeed
  · rintro ⟨n, outcome, h⟩
    refine ⟨n, outcome, ?_⟩
    rw [decision_helloLoop]
    exact congrArg IncrementalParser.State.outcome h

variable (globalConfig deviceCerts) in
/-- The connection's own `ClosesEarly` is that of the incremental parser. -/
theorem closesEarly_iff_endsEarly {reads : Nat → Except Error (List UInt8)} :
    ClosesEarly env reads ↔
      IncrementalParser.EndsEarly (decide? env globalConfig deviceCerts) reads := by
  constructor
  · rintro ⟨n, hok, hn, hincomplete⟩
    exact ⟨n, hok, hn, decision_feed_eq_none_iff.mpr hincomplete⟩
  · rintro ⟨n, hok, hn, hnone⟩
    exact ⟨n, hok, hn, decision_feed_eq_none_iff.mp hnone⟩

end Conn

/-! ### An acceptor that refuses

The part of an acceptor's work that matters for the hello of the lamp: a record is incomplete until
it has the length that its header says, and the name of a device is no host name.
-/

namespace Demo

/-- The length of the record that some bytes begin, with its header of five bytes. -/
def recordLength (bytes : List UInt8) : Nat :=
  5 + 256 * (bytes.getD 3 0).toNat + (bytes.getD 4 0).toNat

/-- The refusal of a server name with an underscore or an equals sign in it. -/
def notAHostName : Error := ["peer misbehaved: ServerNameMustContainOneHostName"]

/-- An acceptor that reads one record and refuses the name in it. -/
def rustls : Env :=
  { env with
    accept := fun bytes =>
      if bytes.length < recordLength bytes then .ok none else .error notAHostName }

/-- A client hello with the server name `krypton-deviceid=lamp`. -/
def clientHello : List UInt8 :=
  -- The headers of the record and of the handshake message, the version and the random bytes
  [22, 3, 1, 0, 85, 1, 0, 0, 81, 3, 3] ++ List.replicate 32 0 ++
    -- No session, one cipher suite, no compression
    [0, 0, 2, 19, 1, 1, 0, 0, 38] ++
    -- The server name, and one signature algorithm
    [0, 0, 0, 26, 0, 24, 0, 0, 21] ++
    [107, 114, 121, 112, 116, 111, 110, 45, 100, 101, 118, 105, 99, 101, 105, 100, 61, 108, 97,
      109, 112] ++
    [0, 13, 0, 4, 0, 2, 4, 3]

/-- The demo acceptor is done once it has the bytes the header announces. -/
theorem rustls_incomplete_iff {fed : List UInt8} :
    rustls.Incomplete fed ↔ fed.length < recordLength fed := by
  simp only [Env.Incomplete, rustls, env]
  split
  · rename_i h
    simp [h]
  · rename_i h
    simp [h]

/-- The header says the length of the record, and what comes after it does not. -/
theorem recordLength_append {fed : List UInt8} (h : recordLength fed ≤ fed.length)
    (more : List UInt8) : recordLength (fed ++ more) = recordLength fed := by
  have hheader : 5 ≤ fed.length := by
    rw [recordLength] at h
    omega
  simp only [recordLength, List.getD_eq_getElem?_getD]
  rw [List.getElem?_append_left (by omega), List.getElem?_append_left (by omega)]

/-- The demo acceptor waits for a first byte. -/
theorem rustls_nothing : rustls.Incomplete [] :=
  rustls_incomplete_iff.mpr (by decide)

/-- The demo acceptor takes its bytes in any portions. -/
theorem rustls_incremental : rustls.Incremental := by
  intro fed more h
  rw [rustls_incomplete_iff] at h
  refine ⟨rfl, ?_⟩
  have hmore : ¬(fed ++ more).length < recordLength (fed ++ more) := by
    rw [recordLength_append (by omega), List.length_append]
    omega
  simp only [rustls, if_neg h, if_neg hmore]

/-- The demo acceptor reads whatever it is given. -/
theorem rustls_reads (fed : List UInt8) : rustls.readTls fed ≠ .error wouldBlock := by
  intro h
  cases h

/-- The demo acceptor is done after the longest record. -/
theorem rustls_bounded : rustls.Bounded := by
  refine ⟨5 + 256 * 256 + 256, fun fed h => ?_⟩
  have h := rustls_incomplete_iff.mp h
  rw [recordLength] at h
  have h₃ := (fed.getD 3 0).toNat_lt
  have h₄ := (fed.getD 4 0).toNat_lt
  omega

/-- The peer sends one byte, and closes its side. -/
def hangUp : Nat → Except Error (List UInt8)
  | 0 => .ok [22]
  | _ => .ok []

/-- A closed socket reads as closed from then on. -/
theorem hangUp_closed (n : Nat) (h : hangUp n = .ok []) (m : Nat) (hm : n ≤ m) :
    hangUp m = .ok [] := by
  cases n with
  | zero => cases h
  | succ n =>
    cases m with
    | zero => omega
    | succ m => rfl

end Demo

open Conn

/-- Whatever `try_read` gives, the loop ends unless the peer closes its side too early. -/
theorem helloEnds_iff (env : Env) (globalConfig : KryptonControllerGlobalConfig)
    (deviceCerts : AList fun _ : DeviceId => List UInt8) (hnothing : env.Incomplete [])
    (hincremental : env.Incremental) (hbounded : env.Bounded)
    (reads : Nat → Except Error (List UInt8))
    (hclosed : ∀ n, reads n = .ok [] → ∀ m, n ≤ m → reads m = .ok []) :
    HelloEnds env globalConfig deviceCerts reads ↔ ¬ClosesEarly env reads := by
  have hstable : IncrementalParser.Stable (decide? env globalConfig deviceCerts) :=
    decide?_stable hincremental
  have hbound : IncrementalParser.Bounded (decide? env globalConfig deviceCerts) :=
    decide?_bounded hbounded
  -- Both sides are those of the parser that is fed
  rw [helloEnds_iff_decides, closesEarly_iff_endsEarly globalConfig deviceCerts]
  exact IncrementalParser.decides_iff hstable hbound (decide?_nil hnothing) hclosed

/-- The client that sends one byte and hangs up. -/
theorem helloEnds_iff_demo :
    HelloEnds Demo.rustls Demo.globalConfig Demo.deviceCerts Demo.hangUp ↔
      ¬ClosesEarly Demo.rustls Demo.hangUp :=
  helloEnds_iff Demo.rustls Demo.globalConfig Demo.deviceCerts Demo.rustls_nothing
    Demo.rustls_incremental Demo.rustls_bounded Demo.hangUp Demo.hangUp_closed

/-- After the one byte the loop reads nothing for ever. -/
theorem not_helloEnds :
    ¬∀ (env : Env) (globalConfig : KryptonControllerGlobalConfig)
      (deviceCerts : AList fun _ : DeviceId => List UInt8)
      (reads : Nat → Except Error (List UInt8)),
      env.Incomplete [] → env.Incremental → env.Bounded →
      (∀ n, reads n = .ok [] → ∀ m, n ≤ m → reads m = .ok []) →
      HelloEnds env globalConfig deviceCerts reads := by
  intro h
  have hends := h Demo.rustls Demo.globalConfig Demo.deviceCerts Demo.hangUp
    Demo.rustls_nothing Demo.rustls_incremental Demo.rustls_bounded Demo.hangUp_closed
  -- The second read finds the end of the stream, and the hello has one byte
  have hearly : ClosesEarly Demo.rustls Demo.hangUp := by
    refine ⟨1, fun m hm => ?_, rfl, Demo.rustls_incomplete_iff.mpr (by decide)⟩
    obtain rfl : m = 0 := by omega
    exact ⟨[22], rfl⟩
  exact IncrementalParser.not_decides_of_endsEarly (decide?_stable Demo.rustls_incremental)
    Demo.hangUp_closed ((closesEarly_iff_endsEarly Demo.globalConfig Demo.deviceCerts).mp hearly)
    (helloEnds_iff_decides.mp hends)

/-! ## What arrives when -/

namespace Conn

/-- What the loop finds at each `try_read`: a chunk of the bytes, or none ready. -/
abbrev Schedule := List (Option (List UInt8))

/-- `try_read` on what it finds. -/
def tryRead : Option (List UInt8) → Except Error (List UInt8)
  | none => .error wouldBlock
  | some chunk => .ok chunk

/-- The bytes that arrive. -/
def arrived (schedule : Schedule) : List UInt8 :=
  schedule.reduceOption.flatten

/-- The loop reads before the bytes that it needs have arrived. -/
def Starved (env : Env) (schedule : Schedule) : Prop :=
  ∃ early late, schedule = early ++ none :: late ∧ env.Incomplete (arrived early)

/-- The decision that a schedule leads to. -/
def decisionOn (env : Env) (globalConfig : KryptonControllerGlobalConfig)
    (deviceCerts : AList fun _ : DeviceId => List UInt8) (schedule : Schedule) :
    Option (Except Error (DeviceId × ServerConfig)) :=
  decision (helloLoop env globalConfig deviceCerts [] (schedule.map tryRead))

variable {env : Env} {globalConfig : KryptonControllerGlobalConfig}
  {deviceCerts : AList fun _ : DeviceId => List UInt8} {fed : List UInt8}

/-- The bytes a schedule delivers are those that have arrived. -/
theorem bytes_tryRead (schedule : Schedule) :
    IncrementalParser.bytes (schedule.map tryRead) = arrived schedule := by
  induction schedule with
  | nil => rfl
  | cons item schedule ih =>
    cases item with
    | none => exact ih
    | some chunk =>
      show chunk ++ IncrementalParser.bytes (schedule.map tryRead) = chunk ++ arrived schedule
      rw [ih]

/-- Fewer bytes than an incomplete hello are an incomplete hello. -/
theorem incomplete_of_append (hincremental : env.Incremental) {more : List UInt8}
    (h : env.Incomplete (fed ++ more)) : env.Incomplete fed := by
  by_contra hfed
  obtain ⟨hread, haccept⟩ := hincremental fed more hfed
  exact hfed ⟨hread ▸ h.1, haccept ▸ h.2⟩

/-- The parser starves where the socket has a gap inside the hello. -/
theorem starves_iff (hincremental : env.Incremental) (hfed : env.Incomplete fed)
    (schedule : Schedule) :
    IncrementalParser.Starves (decide? env globalConfig deviceCerts) fed
        (schedule.map tryRead) ↔
      ∃ early late, schedule = early ++ none :: late ∧
        env.Incomplete (fed ++ arrived early) := by
  induction schedule generalizing fed with
  | nil =>
    constructor
    · intro h
      cases h
    · rintro ⟨early, late, he, -⟩
      simp at he
  | cons item schedule ih =>
    cases item with
    | none =>
      -- No byte is ready now, and the hello is incomplete
      have hnow : env.Incomplete (fed ++ arrived []) := by
        show env.Incomplete (fed ++ [])
        rw [List.append_nil]
        exact hfed
      exact ⟨fun _ => ⟨[], schedule, rfl, hnow⟩, fun _ => trivial⟩
    | some chunk =>
      constructor
      · -- the loop goes on from the chunk, and starves later
        rintro ⟨hnone, hs⟩
        obtain ⟨early, late, rfl, h⟩ := (ih (decision_feed_eq_none_iff.mp hnone)).mp hs
        rw [List.append_assoc] at h
        exact ⟨some chunk :: early, late, rfl, h⟩
      · rintro ⟨early, late, he, h⟩
        cases early with
        | nil => cases he
        | cons item early =>
          cases he
          have h : env.Incomplete (fed ++ (chunk ++ arrived early)) := h
          rw [← List.append_assoc] at h
          -- An incomplete hello was incomplete before its last chunks
          have hchunk := incomplete_of_append hincremental h
          exact ⟨decision_feed_eq_none_iff.mpr hchunk, (ih hchunk).mpr ⟨early, late, rfl, h⟩⟩

/-- No decision on bytes says that none are ready. -/
theorem decide?_ne_wouldBlock (hreads : ∀ fed, env.readTls fed ≠ .error wouldBlock)
    (fed : List UInt8) : decide? env globalConfig deviceCerts fed ≠ some (.error wouldBlock) := by
  intro h
  rw [decide?, feed] at h
  cases hread : env.readTls fed with
  | error e =>
    rw [hread] at h
    cases h
    exact hreads fed hread
  | ok u =>
    simp only [hread] at h
    -- Every error of the server has a text of its own
    split at h
    · simp [decision, wouldBlock] at h
    · cases h
    · rename_i hello _
      split at h
      · rename_i e he
        cases h
        simp only [helloDevice] at he
        split at he
        · simp [wouldBlock] at he
        · split at he
          · simp [wouldBlock] at he
          · cases he
      · split at h
        · simp [decision, wouldBlock] at h
        · cases h

end Conn

/-- Two arrivals of the same bytes lead to the same decision unless just one of them has the loop
read too soon. -/
theorem decision_eq_iff (env : Env) (globalConfig : KryptonControllerGlobalConfig)
    (deviceCerts : AList fun _ : DeviceId => List UInt8) (hnothing : env.Incomplete [])
    (hincremental : env.Incremental) (hreads : ∀ fed, env.readTls fed ≠ .error wouldBlock)
    (schedule schedule' : Schedule) (hbytes : arrived schedule = arrived schedule') :
    decisionOn env globalConfig deviceCerts schedule =
        decisionOn env globalConfig deviceCerts schedule' ↔
      (Starved env schedule ↔ Starved env schedule') := by
  have hstarved : ∀ schedule, IncrementalParser.Starves
      (decide? env globalConfig deviceCerts) [] (schedule.map tryRead) ↔ Starved env schedule :=
    fun schedule => starves_iff hincremental hnothing schedule
  -- Reads fail in one way only: no byte is ready
  have herror : ∀ e, .error e ∈ schedule.map tryRead ++ schedule'.map tryRead →
      e = wouldBlock := by
    intro e hmem
    rw [← List.map_append] at hmem
    obtain ⟨item, -, he⟩ := List.mem_map.mp hmem
    cases item with
    | none => exact (Except.error.inj he).symm
    | some chunk => cases he
  rw [decisionOn, decisionOn, decision_helloLoop, decision_helloLoop,
    IncrementalParser.outcome_eq_iff (decide?_stable hincremental) (decide?_nil hnothing)
      (decide?_ne_wouldBlock hreads) herror (by rw [bytes_tryRead, bytes_tryRead, hbytes]),
    hstarved, hstarved]

/-- The lamp's hello at once, and in two parts without a gap. -/
theorem decision_eq_iff_demo :
    decisionOn Demo.rustls Demo.globalConfig Demo.deviceCerts [some Demo.clientHello] =
        decisionOn Demo.rustls Demo.globalConfig Demo.deviceCerts
          [some [22], some Demo.clientHello.tail] ↔
      (Starved Demo.rustls [some Demo.clientHello] ↔
        Starved Demo.rustls [some [22], some Demo.clientHello.tail]) :=
  decision_eq_iff Demo.rustls Demo.globalConfig Demo.deviceCerts Demo.rustls_nothing
    Demo.rustls_incremental Demo.rustls_reads [some Demo.clientHello]
    [some [22], some Demo.clientHello.tail] rfl

/-- The lamp's hello is refused for its name when it is there at once, and for its gap when it comes
in two parts. -/
theorem not_decision_eq :
    ¬∀ (env : Env) (globalConfig : KryptonControllerGlobalConfig)
      (deviceCerts : AList fun _ : DeviceId => List UInt8) (schedule schedule' : Schedule),
      env.Incomplete [] → env.Incremental → (∀ fed, env.readTls fed ≠ .error wouldBlock) →
      arrived schedule = arrived schedule' →
      decisionOn env globalConfig deviceCerts schedule =
        decisionOn env globalConfig deviceCerts schedule' := by
  intro h
  -- The same bytes, with a gap after the first of them
  have hsame := h Demo.rustls Demo.globalConfig Demo.deviceCerts [some Demo.clientHello]
    [some [22], none, some Demo.clientHello.tail] Demo.rustls_nothing Demo.rustls_incremental
    Demo.rustls_reads rfl
  have hfast : decisionOn Demo.rustls Demo.globalConfig Demo.deviceCerts [some Demo.clientHello] =
      some (.error ("failed to accept krypton tls connection" :: Demo.notAHostName)) := rfl
  have hslow : decisionOn Demo.rustls Demo.globalConfig Demo.deviceCerts
      [some [22], none, some Demo.clientHello.tail] = some (.error wouldBlock) := rfl
  -- A refusal and a `WouldBlock` are two decisions
  rw [hfast, hslow] at hsame
  simp [Demo.notAHostName, wouldBlock] at hsame

/-! ## What is left for the handshake

`TlsAcceptor::accept` reads from the socket that it is given: what is there when the loop has
ended, and what arrives later. -/

namespace Conn

/-- The bytes that the peer sends. -/
def delivered (labels : List Label) : List UInt8 :=
  labels.flatMap fun
    | .deliver bytes => bytes
    | _ => []

/-- A run of one connection. -/
def runs (env : Env) (globalConfig : KryptonControllerGlobalConfig)
    (deviceCerts : AList fun _ : DeviceId => List UInt8) (app : AppState) (c : Conn)
    (labels : List Label) : Option (AppState × Conn) :=
  Lts.run (fun p l => Conn.step env globalConfig deviceCerts p.1 p.2 l) (app, c) labels

/-- `handle_conn` runs the `TlsAcceptor`, which finds the whole stream on its socket. -/
def HandshakeSees (env : Env) (globalConfig : KryptonControllerGlobalConfig)
    (deviceCerts : AList fun _ : DeviceId => List UInt8) (app : AppState) (labels : List Label) :
    Prop :=
  ∃ app' c deviceId tlsConfig,
    runs env globalConfig deviceCerts app (start ()) labels = some (app', c) ∧
    c.stage = .handshake deviceId tlsConfig ∧ c.socket.input = delivered labels

/-- The stream is what the loop has fed to its acceptor, and what is left on the socket. -/
def Accounted (env : Env) (stream : List UInt8) (c : Conn) : Prop :=
  match c.stage with
  | .hello acceptor => stream = acceptor ++ c.socket.input
  | .handshake _ _ =>
    ∃ consumed hello, stream = consumed ++ c.socket.input ∧ env.accept consumed = .ok (some hello)
  | _ => True

variable {env : Env} {globalConfig : KryptonControllerGlobalConfig}
  {deviceCerts : AList fun _ : DeviceId => List UInt8} {app app' : AppState} {c c' : Conn}
  {stream : List UInt8}

/-- A turn of the loop moves what it reads from the socket to the acceptor. -/
theorem Accounted.feed (env : Env) (globalConfig : KryptonControllerGlobalConfig)
    (deviceCerts : AList fun _ : DeviceId => List UInt8) {socket : Socket}
    {acceptor : List UInt8} (h : stream = acceptor ++ socket.input) :
    Accounted env stream ⟨socket, feed env globalConfig deviceCerts acceptor⟩ := by
  by_cases hincomplete : env.Incomplete acceptor
  · rw [feed_of_incomplete hincomplete]
    exact h
  · rcases @feed_cases _ globalConfig deviceCerts _ hincomplete with
      ⟨deviceId, tlsConfig, hello, hf, haccept⟩ | ⟨e, hf⟩
    · rw [hf]
      exact ⟨acceptor, hello, h, haccept⟩
    · rw [hf]
      trivial

/-- The handshake is over. -/
def Stage.IsLater : Stage → Prop
  | .hello _ => False
  | .handshake _ _ => False
  | _ => True

/-- After the hello nothing is left to account for. -/
theorem Accounted.of_isLater (stream : List UInt8) {socket : Socket} {stage : Stage}
    (h : Stage.IsLater stage) : Accounted env stream ⟨socket, stage⟩ := by
  cases stage with
  | hello acceptor => cases h
  | handshake deviceId tlsConfig => cases h
  | running deviceId handler sent => trivial
  | returned deviceId sent result => trivial

/-- Sending a frame leaves the hello behind. -/
theorem startSend_isLater (env : Env) (m : DeviceBoundKryptonMessage) (d : DeviceId)
    (sent : List (DeviceBoundKryptonMessage × List UInt8)) :
    Stage.IsLater (startSend env m d sent) := by
  rw [startSend]
  split
  · trivial
  · trivial

/-- Receiving a frame leaves the hello behind. -/
theorem recvFrame_isLater (env : Env) (devices : Devices) (d : DeviceId)
    (sent : List (DeviceBoundKryptonMessage × List UInt8))
    (result : Except Error (Option (List UInt8))) :
    Stage.IsLater (recvFrame env devices d sent result) := by
  cases result with
  | error e => trivial
  | ok item =>
    cases item with
    | none => trivial
    | some buf =>
      simp only [recvFrame]
      split
      · -- a request that is sent, or a message that is passed over
        exact startSend_isLater env _ d sent
      · trivial
      · trivial

/-- Processing a notification leaves the hello behind. -/
theorem process_isLater (env : Env) (app : AppState) (d : DeviceId)
    (sent : List (DeviceBoundKryptonMessage × List UInt8)) (call : NotificationCall) :
    Stage.IsLater (process env app d sent call).2 := by
  rcases hr : processUpdateNotification app call with ⟨app₁, r⟩
  simp only [process, hr]
  cases r with
  | inl call' => trivial
  | inr result =>
    cases result with
    | error e => exact startSend_isLater env _ d sent
    | ok u => trivial

/-- Every step keeps the account. -/
theorem Accounted.step {l : Label} (hc : Accounted env stream c)
    (h : c.step env globalConfig deviceCerts app l = some (app', c')) :
    Accounted env (stream ++ delivered [l]) c' := by
  cases step_cases h with
  | @deliver socket stage bytes _ _ =>
    have hbytes : delivered [.deliver bytes] = bytes := List.append_nil bytes
    rw [hbytes]
    cases stage with
    | hello acceptor =>
      have hc : stream = acceptor ++ socket.input := hc
      show stream ++ bytes = acceptor ++ (socket.input ++ bytes)
      rw [hc, List.append_assoc]
    | handshake deviceId tlsConfig =>
      obtain ⟨consumed, hello, hstream, haccept⟩ := hc
      refine ⟨consumed, hello, ?_, haccept⟩
      rw [hstream, List.append_assoc]
    | running deviceId handler sent => trivial
    | returned deviceId sent result => trivial
  | hangUp _ =>
    have hnil : stream ++ delivered [.hangUp] = stream := List.append_nil stream
    rw [hnil]
    exact hc
  | readError => trivial
  | @read socket acceptor bytesRead _ =>
    -- The bytes move from the socket to the acceptor
    have hc : stream = acceptor ++ socket.input := hc
    have hnil : stream ++ delivered [.tryRead (.ok bytesRead)] = stream :=
      List.append_nil stream
    rw [hnil]
    apply Accounted.feed
    rw [List.append_assoc, List.take_append_drop]
    exact hc
  | acceptError => trivial
  | accept => trivial
  | @tryNext socket d sent result => exact .of_isLater _ (recvFrame_isLater env _ d sent result)
  | @process socket d call sent => exact .of_isLater _ (process_isLater env app d sent call)
  | sendError => trivial
  | send => trivial

/-- In every run the bytes delivered are accounted for. -/
theorem Accounted.run {labels : List Label}
    (h : runs env globalConfig deviceCerts app (start ()) labels = some (app', c)) :
    Accounted env (delivered labels) c := by
  induction labels using List.reverseRecOn generalizing app' c with
  | nil =>
    cases h
    rfl
  | append_singleton labels l ih =>
    obtain ⟨⟨app₁, c₁⟩, hlabels, hl⟩ := Lts.run_concat _ h
    have hdelivered : delivered (labels ++ [l]) = delivered labels ++ delivered [l] :=
      List.flatMap_append
    rw [hdelivered]
    exact (ih hlabels).step hl

/-- The handshake starts with what came after the bytes that made up the hello. -/
theorem handshake_input {labels : List Label} {deviceId : DeviceId} {tlsConfig : ServerConfig}
    (h : runs env globalConfig deviceCerts app (start ()) labels = some (app', c))
    (hs : c.stage = .handshake deviceId tlsConfig) :
    ∃ consumed hello, delivered labels = consumed ++ c.socket.input ∧
      env.accept consumed = .ok (some hello) := by
  have haccounted := Accounted.run h
  simp only [Accounted, hs] at haccounted
  exact haccounted

end Conn

namespace Conn

variable (env : Env) (globalConfig : KryptonControllerGlobalConfig)
  (deviceCerts : AList fun _ : DeviceId => List UInt8) (app : AppState)

/-- Bytes that arrive during the handshake stay on the socket. -/
theorem deliver_handshake (chunks : List (List UInt8)) (input : List UInt8) (deviceId : DeviceId)
    (tlsConfig : ServerConfig) :
    runs env globalConfig deviceCerts app ⟨⟨input, false⟩, .handshake deviceId tlsConfig⟩
        (chunks.map Label.deliver) =
      some (app, ⟨⟨input ++ chunks.flatten, false⟩, .handshake deviceId tlsConfig⟩) := by
  induction chunks generalizing input with
  | nil =>
    rw [List.flatten_nil, List.append_nil]
    rfl
  | cons chunk chunks ih =>
    rw [List.flatten_cons, ← List.append_assoc, ← ih]
    rfl

/-- A stream that is accepted leads to the handshake, in whatever pieces it arrives. -/
theorem handshake_reached (chunks : List (List UInt8)) (acceptor : List UInt8)
    {deviceId : DeviceId} {tlsConfig : ServerConfig}
    (hchunks : ∀ chunk ∈ chunks, chunk ≠ [] ∧ chunk.length ≤ 4096)
    (h : helloLoop env globalConfig deviceCerts acceptor (chunks.map .ok) =
      .handshake deviceId tlsConfig) :
    ∃ labels c, runs env globalConfig deviceCerts app ⟨⟨[], false⟩, .hello acceptor⟩ labels =
        some (app, c) ∧
      c.stage = .handshake deviceId tlsConfig ∧ delivered labels = chunks.flatten := by
  induction chunks generalizing acceptor with
  | nil => cases h
  | cons chunk chunks ih =>
    obtain ⟨hne, hlength⟩ := hchunks chunk List.mem_cons_self
    have hzero : ¬chunk.length = 0 := fun hzero => hne (List.length_eq_zero_iff.mp hzero)
    -- The chunk arrives, and is read whole
    have hread : runs env globalConfig deviceCerts app ⟨⟨[], false⟩, .hello acceptor⟩
        [.deliver chunk, .tryRead (.ok chunk.length)] =
          some (app, ⟨⟨[], false⟩, feed env globalConfig deviceCerts (acceptor ++ chunk)⟩) := by
      simp [runs, Lts.run, step, isOpen, hlength, hzero]
    rw [List.map_cons, helloLoop] at h
    simp only [helloTurn] at h
    split at h
    · rename_i fed hfeed
      have hrest : ∀ chunk ∈ chunks, chunk ≠ [] ∧ chunk.length ≤ 4096 := fun chunk hmem =>
        hchunks chunk (List.mem_cons_of_mem _ hmem)
      obtain ⟨labels, c, hlabels, hs, hdelivered⟩ := ih fed hrest h
      rw [hfeed] at hread
      refine ⟨_ ++ labels, c, (Lts.run_append_of _ hread).trans hlabels, hs, ?_⟩
      rw [List.flatten_cons, ← hdelivered]
      rfl
    · rw [h] at hread
      -- The hello is accepted, and what arrives later is left on the socket
      refine ⟨_ ++ chunks.map Label.deliver, _, (Lts.run_append_of _ hread).trans
        (deliver_handshake env globalConfig deviceCerts app chunks [] deviceId tlsConfig), rfl, ?_⟩
      have hdelivered : delivered (chunks.map Label.deliver) = chunks.flatten := by
        rw [delivered, List.flatMap_map]
        exact List.flatMap_id
      rw [List.flatten_cons, ← hdelivered]
      rfl

end Conn

/-- Whatever the peer sends, in whatever pieces, the handshake does not see the whole stream. -/
theorem handshake_misses (env : Env) (globalConfig : KryptonControllerGlobalConfig)
    (deviceCerts : AList fun _ : DeviceId => List UInt8) (app : AppState)
    (hnothing : env.accept [] = .ok none) (labels : List Label) :
    ¬HandshakeSees env globalConfig deviceCerts app labels := by
  rintro ⟨app', c, deviceId, tlsConfig, hrun, hs, hinput⟩
  obtain ⟨consumed, hello, hstream, haccept⟩ := handshake_input hrun hs
  -- The hello is part of the stream, and not of what is left
  have hconsumed : consumed = [] := by
    rw [hinput] at hstream
    exact List.self_eq_append_left.mp hstream
  rw [hconsumed, hnothing] at haccept
  cases haccept

/-- With an acceptor that refuses the name, and with one that takes any byte for a hello. -/
theorem handshake_misses_demo :
    ¬HandshakeSees Demo.rustls Demo.globalConfig Demo.deviceCerts Demo.app
        [.deliver Demo.clientHello, .tryRead (.ok 90)] ∧
      ¬HandshakeSees Demo.env Demo.globalConfig Demo.deviceCerts Demo.app
        [.deliver [22], .tryRead (.ok 1)] :=
  ⟨handshake_misses Demo.rustls Demo.globalConfig Demo.deviceCerts Demo.app rfl _,
    handshake_misses Demo.env Demo.globalConfig Demo.deviceCerts Demo.app rfl _⟩

/-- The hello of the lamp, whose certificate is configured, is refused: `handle_conn` returns that
error, and however the run goes on no handshake begins. -/
theorem not_handshakeSees :
    (Demo.deviceCerts.lookup Demo.lamp).isSome ∧
      (∃ app c, runs Demo.rustls Demo.globalConfig Demo.deviceCerts Demo.app (start ())
          [.deliver Demo.clientHello, .tryRead (.ok 90)] = some (app, c) ∧
        c.stage = .returned none []
          (.error ("failed to accept krypton tls connection" :: Demo.notAHostName))) ∧
      ∀ labels, ¬HandshakeSees Demo.rustls Demo.globalConfig Demo.deviceCerts Demo.app
        ([.deliver Demo.clientHello, .tryRead (.ok 90)] ++ labels) := by
  refine ⟨rfl, ⟨_, _, rfl, rfl⟩, ?_⟩
  rintro labels ⟨app', c, deviceId, tlsConfig, hrun, hs, -⟩
  have hrefused : ∃ app₁ c₁, runs Demo.rustls Demo.globalConfig Demo.deviceCerts Demo.app
      (start ()) [.deliver Demo.clientHello, .tryRead (.ok 90)] = some (app₁, c₁) ∧
      ∃ e, c₁.stage = .returned none [] (.error e) :=
    ⟨_, _, rfl, _, rfl⟩
  obtain ⟨app₁, ⟨socket, stage⟩, hfirst, e, hstage⟩ := hrefused
  obtain rfl : stage = .returned none [] (.error e) := hstage
  rw [runs, Lts.run_append_of _ hfirst] at hrun
  -- `handle_conn` has returned, so nothing is left to do
  cases labels with
  | nil =>
    cases hrun
    cases hs
  | cons l labels =>
    cases l <;> simp [Lts.run, step, isOpen] at hrun

end Devicectrl.Krypton
