import RetroShareTor.Pqi.OutputBuffer

/-!
# Which descriptor the output goes to

`tick()` checks that the interface is active once, before `read_pending()`. When that
`read()` reaches the end of the stream, `read_pending()` closes the interface, which sets
its descriptor to `0`, and `tick()` goes on with `write_pending()`: queued output is
written to descriptor `0` by an inactive interface. `close()` keeps both buffers, so
`setSocket` on an active interface does not cancel the pending data its message announces;
the next tick writes it to the new descriptor.
-/

namespace RetroShareTor

namespace RsFdBinInterface

/-- On an active interface with output queued, a tick whose `read()` reaches the end of the
stream leaves the interface inactive and writes the front segment to descriptor `0`. -/
theorem tick_eof_writes_fd0 {s : RsFdBinInterface} {p : Bytes} {rest : List Bytes}
    (ha : s.mIsActive = true) (hout : s.out_buffer = p :: rest) (w : WriteResult) :
    (s.tick (.ok []) w).1.mIsActive = false ∧
      (s.tick (.ok []) w).2.2 = [.read s.mCLintConnt (.ok []), .write 0 p w] := by
  simp [tick, ha, read_pending, write_pending_events, hout, close]

/-- `setSocket` keeps the queued output, so the next tick on the new descriptor writes the
front segment queued for the old one to the new one. -/
theorem setSocket_tick_writes_queued {s : RsFdBinInterface} {p : Bytes} {rest : List Bytes}
    (hout : s.out_buffer = p :: rest) {fd : Int} (hfd : fd ≠ 0) (e : Int) (w : WriteResult) :
    ((s.setSocket fd).tick (.error e) w).1.mIsActive = true ∧
      ((s.setSocket fd).tick (.error e) w).2.2 = [.read fd (.error e), .write fd p w] := by
  have ha : (s.setSocket fd).mIsActive = true := by
    unfold setSocket; split <;> simp [hfd]
  have hc : (s.setSocket fd).mCLintConnt = fd := by unfold setSocket; split <;> rfl
  simp [tick, ha, hc, read_pending, write_pending_events, hout]

/-- Two runs from an interface on descriptor `5` with one byte queued. A tick that reaches
the end of the stream writes the byte to descriptor `0` and leaves the interface inactive;
after a switch to descriptor `6` the byte queued for `5` is written to `6`. -/
theorem queued_output_written_elsewhere :
    ((init 5).run [.senddata (ascii "x"), .tick (.ok []) (.ok 1)]).map
        (fun r => (r.1.mIsActive, r.2)) =
      some (false, [.read 5 (.ok []), .write 0 (ascii "x") (.ok 1)]) ∧
    ((init 5).run [.senddata (ascii "x"), .setSocket 6, .tick (.error 11) (.ok 1)]).map
        (fun r => (r.1.mIsActive, r.2)) =
      some (true, [.read 6 (.error 11), .write 6 (ascii "x") (.ok 1)]) := by
  have h₁ := @tick_eof_writes_fd0 ((init 5).senddata (ascii "x")).1 (ascii "x") [] rfl rfl (.ok 1)
  have h₂ := @setSocket_tick_writes_queued ((init 5).senddata (ascii "x")).1 (ascii "x") [] rfl 6
    (by decide) 11 (.ok 1)
  constructor
  · simp only [run, step, Option.bind_some, Option.map_some', h₁.1, h₁.2]
    rfl
  · simp only [run, step, Option.bind_some, Option.map_some', h₂.1, h₂.2]
    rfl

end RsFdBinInterface

end RetroShareTor
