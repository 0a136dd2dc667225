import Devicectrl.Native.Krypton

/-!
# The hello loop of the Krypton controller

The loop by which `handle_conn` of `controllers/krypton.rs` collects the client hello, over what
`try_read` gives it: bytes, none at the end of the stream, or an error, also when no byte is ready.
-/

namespace Devicectrl.Krypton

/-- The error of `try_read` when no byte is ready, an `io::ErrorKind::WouldBlock`. -/
def wouldBlock : Error := ["operation would block"]

namespace Conn

/-- One turn of the loop. -/
def helloTurn (env : Env) (globalConfig : KryptonControllerGlobalConfig)
    (deviceCerts : AList fun _ : DeviceId => List UInt8) (acceptor : List UInt8) :
    Except Error (List UInt8) → Stage
  -- `socket.try_read(&mut ch_buf)?`
  | .error e => .returned none [] (.error e)
  | .ok bytes => feed env globalConfig deviceCerts (acceptor ++ bytes)

/-- The loop over some results of `try_read`. -/
def helloLoop (env : Env) (globalConfig : KryptonControllerGlobalConfig)
    (deviceCerts : AList fun _ : DeviceId => List UInt8) (acceptor : List UInt8) :
    List (Except Error (List UInt8)) → Stage
  | [] => .hello acceptor
  | result :: reads =>
    match helloTurn env globalConfig deviceCerts acceptor result with
    | .hello acceptor => helloLoop env globalConfig deviceCerts acceptor reads
    -- `break`, or `?`
    | stage => stage

/-- A read of a connection is a turn of the loop. -/
theorem step_tryRead {env : Env} {globalConfig : KryptonControllerGlobalConfig}
    {deviceCerts : AList fun _ : DeviceId => List UInt8} {app app' : AppState} {c c' : Conn}
    {result : Except Error Nat}
    (h : c.step env globalConfig deviceCerts app (.tryRead result) = some (app', c')) :
    ∃ acceptor, c.stage = .hello acceptor ∧
      c'.stage = helloTurn env globalConfig deviceCerts acceptor
        (result.map fun bytesRead => c.socket.input.take bytesRead) := by
  simp only [step] at h
  split at h
  · rename_i acceptor hs
    refine ⟨acceptor, hs, ?_⟩
    -- The read failed, or it brought some of what is in the socket
    split at h
    · cases h
      rfl
    · split at h
      · cases h
        rfl
      · cases h
  · cases h

end Conn

end Devicectrl.Krypton
