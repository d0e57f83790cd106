import RetroShareTor.Util.ByteArray

/-!
# The descriptor pipe

`RsFdBinInterface` of `pqifdbin.cc`: a non-blocking file descriptor with a FIFO of inbound
segments, filled by `read()`, and a FIFO of outbound segments, drained by `write()`.

The operating system is the environment: a `read()` or `write()` result is an argument of
the call that makes it, and every system call the interface makes is returned as an
event, with the descriptor it went to. Calls that dereference the front of an empty
segment list have undefined behaviour in the source; they are `none` here.

`pqifdbin.h`, which declares the fields, is not among the sources. The spec calls the four
counters running byte counts; they are `Nat` here, and the one cast of a counter, the
`(int)` of `readdata`, is the 32-bit conversion `toInt32`.
-/

namespace RetroShareTor

/-- What `read()` returned: the bytes read, none at the end of the stream, or `-1` with
`errno`. -/
inductive ReadResult
  | ok (bytes : Bytes)
  | error (errno : Int)
  deriving DecidableEq, Repr

/-- What `write()` returned: the number of bytes it took, or `-1` with `errno`. -/
inductive WriteResult
  | ok (written : Nat)
  | error (errno : Int)
  deriving DecidableEq, Repr

/-- A system call of the interface, or bytes it handed to its caller. -/
inductive PipeEvent
  | read (fd : Int) (result : ReadResult)
  | write (fd : Int) (offered : Bytes) (result : WriteResult)
  | handed (bytes : Bytes)
  deriving DecidableEq, Repr

/-- `(int)x` for a 32-bit unsigned `x`. -/
def toInt32 (x : Nat) : Int :=
  let v : Nat := x % 2 ^ 32
  if v < 2 ^ 31 then (v : Int) else (v : Int) - 2 ^ 32

/-- The state of an `RsFdBinInterface`. `mIsSocket` only selects Windows system calls and
is left out. -/
structure RsFdBinInterface where
  mCLintConnt : Int
  mIsActive : Bool
  mTotalReadBytes : Nat
  mTotalInBufferBytes : Nat
  mTotalWrittenBytes : Nat
  mTotalOutBufferBytes : Nat
  in_buffer : List Bytes
  out_buffer : List Bytes
  deriving DecidableEq, Repr

namespace RsFdBinInterface

/-- `close()`: the interface is inactive and holds descriptor `0`; both buffers stay. -/
def close (s : RsFdBinInterface) : RsFdBinInterface :=
  { s with mIsActive := false, mCLintConnt := 0 }

/-- `setSocket(s)`: an active interface is closed first ("Canceling all pending R/W
data."), then `s` is adopted and made non-blocking. -/
def setSocket (s : RsFdBinInterface) (fd : Int) : RsFdBinInterface :=
  let s := if s.mIsActive then s.close else s
  { s with mCLintConnt := fd, mIsActive := fd ≠ 0 }

/-- The constructor `RsFdBinInterface(file_descriptor, is_socket)`. -/
def init (fd : Int) : RsFdBinInterface :=
  let s : RsFdBinInterface := ⟨fd, false, 0, 0, 0, 0, [], []⟩
  if fd ≠ 0 then s.setSocket fd else s

/-- `read_pending()`, given what its `read()` of up to 1025 bytes returned. -/
def read_pending (s : RsFdBinInterface) (r : ReadResult) :
    RsFdBinInterface × Nat × List PipeEvent :=
  let ev := [PipeEvent.read s.mCLintConnt r]
  match r with
  | .ok [] => (s.close, s.mTotalInBufferBytes, ev)
  | .error _ => (s, s.mTotalInBufferBytes, ev)
  | .ok bytes =>
    let s := { s with
      in_buffer := s.in_buffer ++ [bytes]
      mTotalInBufferBytes := s.mTotalInBufferBytes + bytes.length
      mTotalReadBytes := s.mTotalReadBytes + bytes.length }
    (s, s.mTotalInBufferBytes, ev)

/-- `write_pending()`, given what its `write()` of the front segment returned. -/
def write_pending (s : RsFdBinInterface) (w : WriteResult) :
    RsFdBinInterface × Nat × List PipeEvent :=
  match s.out_buffer with
  | [] => (s, s.mTotalOutBufferBytes, [])
  | p :: rest =>
    let ev := [PipeEvent.write s.mCLintConnt p w]
    match w with
    | .error _ | .ok 0 => (s, s.mTotalOutBufferBytes, ev)
    | .ok written =>
      let s := { s with
        out_buffer := if written < p.length then p.drop written :: rest else rest
        mTotalOutBufferBytes := s.mTotalOutBufferBytes - written
        mTotalWrittenBytes := s.mTotalWrittenBytes + written }
      (s, s.mTotalOutBufferBytes, ev)

/-- `tick()`: on an active interface, `read_pending()` then `write_pending()`. -/
def tick (s : RsFdBinInterface) (r : ReadResult) (w : WriteResult) :
    RsFdBinInterface × Int × List PipeEvent :=
  if s.mIsActive then
    let a := s.read_pending r
    let b := a.1.write_pending w
    (b.1, a.2.1 + b.2.1, a.2.2 ++ b.2.2)
  else (s, 0, [])

/-- `senddata(data, len)`: a copy of the bytes is queued; `len == 0` queues nothing. -/
def senddata (s : RsFdBinInterface) (data : Bytes) : RsFdBinInterface × Int :=
  if data = [] then (s, 0)
  else ({ s with
    out_buffer := s.out_buffer ++ [data]
    mTotalOutBufferBytes := s.mTotalOutBufferBytes + data.length }, data.length)

/-- `isactive()`, as a truth value: the interface is active, or inbound bytes are still
counted. -/
def isactive (s : RsFdBinInterface) : Bool := s.mIsActive || s.mTotalInBufferBytes > 0

/-- `moretoread(usec)`. -/
def moretoread (s : RsFdBinInterface) : Bool := s.mTotalInBufferBytes > 0

/-- `moretowrite(usec)`. -/
def moretowrite (s : RsFdBinInterface) : Bool := s.mTotalOutBufferBytes > 0

/-- `cansend(usec)`: `isactive()`. -/
def cansend (s : RsFdBinInterface) : Bool := s.isactive

/-! ### What the writing side leaves alone -/

@[simp] lemma close_in_buffer (s : RsFdBinInterface) : s.close.in_buffer = s.in_buffer := rfl
@[simp] lemma close_mTotalInBufferBytes (s : RsFdBinInterface) :
    s.close.mTotalInBufferBytes = s.mTotalInBufferBytes := rfl
@[simp] lemma close_out_buffer (s : RsFdBinInterface) : s.close.out_buffer = s.out_buffer := rfl
@[simp] lemma close_mTotalOutBufferBytes (s : RsFdBinInterface) :
    s.close.mTotalOutBufferBytes = s.mTotalOutBufferBytes := rfl
@[simp] lemma close_mTotalWrittenBytes (s : RsFdBinInterface) :
    s.close.mTotalWrittenBytes = s.mTotalWrittenBytes := rfl

@[simp] lemma setSocket_in_buffer (s : RsFdBinInterface) (fd : Int) :
    (s.setSocket fd).in_buffer = s.in_buffer := by
  unfold setSocket; split <;> rfl
@[simp] lemma setSocket_mTotalInBufferBytes (s : RsFdBinInterface) (fd : Int) :
    (s.setSocket fd).mTotalInBufferBytes = s.mTotalInBufferBytes := by
  unfold setSocket; split <;> rfl
@[simp] lemma setSocket_out_buffer (s : RsFdBinInterface) (fd : Int) :
    (s.setSocket fd).out_buffer = s.out_buffer := by
  unfold setSocket; split <;> rfl
@[simp] lemma setSocket_mTotalOutBufferBytes (s : RsFdBinInterface) (fd : Int) :
    (s.setSocket fd).mTotalOutBufferBytes = s.mTotalOutBufferBytes := by
  unfold setSocket; split <;> rfl
@[simp] lemma setSocket_mTotalWrittenBytes (s : RsFdBinInterface) (fd : Int) :
    (s.setSocket fd).mTotalWrittenBytes = s.mTotalWrittenBytes := by
  unfold setSocket; split <;> rfl

@[simp] lemma senddata_in_buffer (s : RsFdBinInterface) (data : Bytes) :
    (s.senddata data).1.in_buffer = s.in_buffer := by
  unfold senddata; split <;> rfl
@[simp] lemma senddata_mTotalInBufferBytes (s : RsFdBinInterface) (data : Bytes) :
    (s.senddata data).1.mTotalInBufferBytes = s.mTotalInBufferBytes := by
  unfold senddata; split <;> rfl

@[simp] lemma write_pending_in_buffer (s : RsFdBinInterface) (w : WriteResult) :
    (s.write_pending w).1.in_buffer = s.in_buffer := by
  unfold write_pending; split <;> (try split) <;> rfl
@[simp] lemma write_pending_mTotalInBufferBytes (s : RsFdBinInterface) (w : WriteResult) :
    (s.write_pending w).1.mTotalInBufferBytes = s.mTotalInBufferBytes := by
  unfold write_pending; split <;> (try split) <;> rfl

@[simp] lemma write_pending_mIsActive (s : RsFdBinInterface) (w : WriteResult) :
    (s.write_pending w).1.mIsActive = s.mIsActive := by
  unfold write_pending; split <;> (try split) <;> rfl

/-- `write_pending` makes one `write()`, of the front segment to the held descriptor, when
output is queued. -/
lemma write_pending_events (s : RsFdBinInterface) (w : WriteResult) :
    (s.write_pending w).2.2 = s.out_buffer.head?.toList.map (.write s.mCLintConnt · w) := by
  unfold write_pending; split <;> (try split) <;> simp_all

/-- The loop of `readdata`: `need > 0` bytes to copy from the front segments. The bytes
copied and the segments left, the front one cut to its unread remainder; `none` when the
segments run out (`front()` of an empty list). -/
def readLoop : List Bytes → Nat → Option (Bytes × List Bytes)
  | [], _ => none
  | p :: ps, need =>
    if need ≤ p.length then
      some (p.take need, if p.length - need = 0 then ps else p.drop need :: ps)
    else (readLoop ps (need - p.length)).map fun r => (p ++ r.1, r.2)

/-- `readdata(data, len)`: the return value and the bytes copied to `data`. When fewer than
`len` bytes are buffered nothing is consumed; `len == 0` skips the loop. -/
def readdata (s : RsFdBinInterface) (len : Nat) : Option (RsFdBinInterface × Int × Bytes) :=
  if toInt32 s.mTotalInBufferBytes < len then some (s, toInt32 s.mTotalInBufferBytes, [])
  else if len = 0 then some (s, 0, [])
  else (readLoop s.in_buffer len).map fun r =>
    ({ s with in_buffer := r.2, mTotalInBufferBytes := s.mTotalInBufferBytes - len }, len, r.1)

/-- The two loops of `readline` walk the buffered bytes in order, `n` counting them: the
length of the first prefix that ends in `\n` or is `len` long. -/
def lineLength (len : Nat) : Nat → Bytes → Option Nat
  | _, [] => none
  | n, c :: cs => if n + 1 = len ∨ c = byte '\n' then some (n + 1) else lineLength len (n + 1) cs

/-- `readline(data, len)`. -/
def readline (s : RsFdBinInterface) (len : Nat) : Option (RsFdBinInterface × Int × Bytes) :=
  match lineLength len 0 s.in_buffer.flatten with
  | some n => s.readdata n
  | none => some (s, 0, [])

end RsFdBinInterface

/-- A call on the interface: its public members, and the two steps of `tick()`. -/
inductive PipeCall
  | setSocket (fd : Int)
  | close
  | tick (r : ReadResult) (w : WriteResult)
  | read_pending (r : ReadResult)
  | write_pending (w : WriteResult)
  | senddata (data : Bytes)
  | readline (len : Nat)
  | readdata (len : Nat)
  deriving DecidableEq, Repr

namespace RsFdBinInterface

/-- The bytes a consuming call handed out, as an event. -/
def handedOut (r : RsFdBinInterface × Int × Bytes) : RsFdBinInterface × List PipeEvent :=
  (r.1, [.handed r.2.2])

/-- One call: the new state and its events; `none` is undefined behaviour. -/
def step (s : RsFdBinInterface) : PipeCall → Option (RsFdBinInterface × List PipeEvent)
  | .setSocket fd => some (s.setSocket fd, [])
  | .close => some (s.close, [])
  | .tick r w => let t := s.tick r w; some (t.1, t.2.2)
  | .read_pending r => let t := s.read_pending r; some (t.1, t.2.2)
  | .write_pending w => let t := s.write_pending w; some (t.1, t.2.2)
  | .senddata data => some ((s.senddata data).1, [])
  | .readline len => (s.readline len).map handedOut
  | .readdata len => (s.readdata len).map handedOut

/-- A sequence of calls: the final state and all events, in order. -/
def run (s : RsFdBinInterface) : List PipeCall → Option (RsFdBinInterface × List PipeEvent)
  | [] => some (s, [])
  | c :: cs => (s.step c).bind fun r => (r.1.run cs).map fun r' => (r'.1, r.2 ++ r'.2)

/-- The bytes `f` gives at each call of a sequence, from the state the call is made in, in
order. -/
def runBytes (f : RsFdBinInterface → PipeCall → Bytes) :
    RsFdBinInterface → List PipeCall → Bytes
  | _, [] => []
  | s, c :: cs => f s c ++
    match s.step c with
    | some r => runBytes f r.1 cs
    | none => []

lemma runBytes_cons {f : RsFdBinInterface → PipeCall → Bytes} {s : RsFdBinInterface}
    {c : PipeCall} {r : RsFdBinInterface × List PipeEvent} (h : s.step c = some r)
    (cs : List PipeCall) : runBytes f s (c :: cs) = f s c ++ runBytes f r.1 cs := by
  simp [runBytes, h]

end RsFdBinInterface

end RetroShareTor
