import Omni.Management.ServiceAccount

/-!
# `MachineLogs`

`MachineLogs` streams a machine's log to the client.  After the caller's role is checked
and the machine ID is found non-empty, it opens a reader on the log handler and loops:
read a line, send it; the first read error and the first failed `Send` end the call.
`handleError` turns the reader's `io.EOF` into a clean end and its buffer-not-found error
into `codes.NotFound`.

The log handler is not part of the excerpt: a reader is what its `ReadLine` returns, the
lines in order and then the error after them.  A reader that follows a live log and never
ends has no such last error; every run of the handler that returns reads finitely many
lines, and those runs are the ones modelled.  The client's side of the stream is which
`Send` fails: `sendFault n` is the error of the `n`-th `Send`, counted from zero.

The result is as precise as the loop: the client receives the reader's first lines, up to
the first failed `Send` (`machineLogs_stream`).
-/

namespace Omni
namespace Management

/-- A log reader's error as `handleError` tells them apart: `io.EOF`, the buffer-not-found
error of `siderolink` (with its text), or any other error. -/
inductive LogError where
  | eof
  | bufferNotFound (message : String)
  | other (err : Error)

/-- `handleError`: `none` is Go's `nil`. -/
def handleError : LogError → Option Error
  | .eof => none
  | .bufferNotFound message => some (.status codeNotFound message)
  | .other err => some err

/-- `management.MachineLogsRequest`.  `TailLines` is an `int32`, kept as an `Int`: the
handler only compares it with zero. -/
structure MachineLogsRequest where
  machineId : String
  follow : Bool
  tailLines : Int

/-- A log reader: the lines `ReadLine` returns, in order, and the error it returns after
them. -/
structure LogReader where
  lines : List String
  stop : LogError

/-- The `for` loop of `MachineLogs` from its `n`-th `Send` on: the lines the client
receives and the error the handler returns. -/
def readLoop (sendFault : Nat → Option Error) (n : Nat) :
    List String → LogError → List String × Option Error
  | [], stop => ([], handleError stop)
  | line :: rest, stop =>
    match sendFault n with
    | some err => ([], some err)
    | Option.none =>
      let result := readLoop sendFault (n + 1) rest stop
      (line :: result.1, result.2)

/-- `MachineLogs`; `check` is `auth.CheckGRPC`'s answer for the caller and `getReader` is
`s.logHandler.GetReader`. -/
def machineLogs (check : Except Error CheckResult)
    (getReader : String → Bool → Option Int → Except LogError LogReader)
    (sendFault : Nat → Option Error) (request : MachineLogsRequest) :
    List String × Option Error :=
  match check with
  | .error err => ([], some err)
  | .ok _ =>
  if request.machineId == "" then ([], some (.status codeInvalidArgument "machine id is required"))
  else
  let tailLines := if request.tailLines ≥ 0 then some request.tailLines else Option.none
  match getReader request.machineId request.follow tailLines with
  | .error err => ([], handleError err)
  | .ok logReader => readLoop sendFault 0 logReader.lines logReader.stop

theorem handleError_eq_none_iff (err : LogError) : handleError err = Option.none ↔ err = .eof := by
  cases err <;> simp [handleError]

section ReadLoop

variable (sendFault : Nat → Option Error) (stop : LogError)

/-- From its `n`-th `Send` on, the loop delivers some number `k` of lines, the first `k`
of them, with all `k` sends succeeding; then either every line was delivered and the
reader's last error decides the result, or the next `Send` failed and its error is the
result. -/
theorem readLoop_cases (n : Nat) (lines : List String) :
    ∃ k ≤ lines.length, (readLoop sendFault n lines stop).1 = lines.take k ∧
      (∀ i < k, sendFault (n + i) = Option.none) ∧
      (k = lines.length ∧ (readLoop sendFault n lines stop).2 = handleError stop ∨
        k < lines.length ∧ (readLoop sendFault n lines stop).2 = sendFault (n + k) ∧
          (sendFault (n + k)).isSome) := by
  induction lines generalizing n with
  | nil => exact ⟨0, le_rfl, rfl, fun _ h => absurd h (Nat.not_lt_zero _), .inl ⟨rfl, rfl⟩⟩
  | cons line rest ih =>
    cases hsend : sendFault n with
    | some err =>
      refine ⟨0, Nat.zero_le _, by simp [readLoop, hsend], fun _ h => absurd h (Nat.not_lt_zero _),
        .inr ⟨Nat.succ_pos _, ?_⟩⟩
      simp [readLoop, hsend]
    | none =>
      obtain ⟨k, hk, h1, hok, hend⟩ := ih (n + 1)
      have hshift : ∀ i, n + 1 + i = n + (i + 1) := fun i => by omega
      refine ⟨k + 1, Nat.succ_le_succ hk, by simp [readLoop, hsend, h1], fun i hi => ?_, ?_⟩
      · cases i with
        | zero => exact hsend
        | succ i => exact hshift i ▸ hok i (by omega)
      · simp only [readLoop, hsend, List.length_cons, hshift] at hend ⊢
        rcases hend with ⟨hlen, hres⟩ | ⟨hlen, hres, hsome⟩
        · exact .inl ⟨by omega, hres⟩
        · exact .inr ⟨by omega, hres, hsome⟩

end ReadLoop

/-- Once the caller passes the role check and names a machine, and the reader opens (asked
for the last `TailLines` lines only when `TailLines` is not negative), the client receives
the reader's first `k` lines in order, every one of the `k` sends having succeeded.  When a
line was not delivered, the `k`-th `Send` failed and `MachineLogs` returns its error.  It
returns `nil` exactly when every line was delivered and the reader ended with `io.EOF`,
and `codes.NotFound` with the error's text when every line was delivered and the reader
ended with the buffer-not-found error. -/
theorem machineLogs_stream (check : Except Error CheckResult)
    (getReader : String → Bool → Option Int → Except LogError LogReader)
    (sendFault : Nat → Option Error) (request : MachineLogsRequest) (r : CheckResult)
    (logReader : LogReader) (hcheck : check = .ok r) (hid : request.machineId ≠ "")
    (hreader : getReader request.machineId request.follow
      (if request.tailLines ≥ 0 then some request.tailLines else Option.none) = .ok logReader) :
    ∃ k ≤ logReader.lines.length,
      (machineLogs check getReader sendFault request).1 = logReader.lines.take k ∧
      (∀ i < k, sendFault i = Option.none) ∧
      (k < logReader.lines.length →
        (machineLogs check getReader sendFault request).2 = sendFault k ∧ (sendFault k).isSome) ∧
      ((machineLogs check getReader sendFault request).2 = Option.none ↔
        k = logReader.lines.length ∧ logReader.stop = .eof) ∧
      ∀ message, logReader.stop = .bufferNotFound message → k = logReader.lines.length →
        (machineLogs check getReader sendFault request).2 =
          some (.status codeNotFound message) := by
  have hloop : machineLogs check getReader sendFault request =
      readLoop sendFault 0 logReader.lines logReader.stop := by
    simp [machineLogs, hcheck, hid, hreader]
  obtain ⟨k, hk, hlines, hok, hend⟩ := readLoop_cases sendFault logReader.stop 0 logReader.lines
  simp only [Nat.zero_add] at hok hend
  rw [hloop]
  refine ⟨k, hk, hlines, hok, ?_⟩
  rcases hend with ⟨hlen, hres⟩ | ⟨hlen, hres, hsome⟩
  · refine ⟨fun h => absurd hlen (by omega), ?_, fun message hstop _ => by rw [hres, hstop]; rfl⟩
    rw [hres, handleError_eq_none_iff]
    exact ⟨fun h => ⟨hlen, h⟩, And.right⟩
  · refine ⟨fun _ => ⟨hres, hsome⟩, ?_, fun _ _ h => absurd h (by omega)⟩
    rw [hres]
    exact ⟨fun h => absurd h (Option.isSome_iff_ne_none.1 hsome), fun h => absurd h.1 (by omega)⟩

/-- A reader that yields two lines and then `io.EOF`. -/
def LogReader.sample : LogReader := ⟨["booted", "ready"], .eof⟩

theorem machineLogs_stream_sample :
    machineLogs (.ok ⟨"Reader"⟩) (fun _ _ _ => .ok LogReader.sample) (fun _ => Option.none)
      ⟨"machine-1", false, -1⟩ = (["booted", "ready"], Option.none) := by
  obtain ⟨k, hk, hlines, -, hfail, hnil, -⟩ := machineLogs_stream (.ok ⟨"Reader"⟩)
    (fun _ _ _ => .ok LogReader.sample) (fun _ => Option.none) ⟨"machine-1", false, -1⟩
    ⟨"Reader"⟩ LogReader.sample rfl (by decide) rfl
  have hk2 : k = 2 := by
    by_contra hne
    simpa using (hfail (by simp [LogReader.sample] at hk ⊢; omega)).2
  subst hk2
  exact Prod.ext hlines (hnil.2 ⟨rfl, rfl⟩)

end Management
end Omni
