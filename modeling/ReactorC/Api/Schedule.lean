import ReactorC.Federate.Schedule

/-!
# Api/Schedule — the schedule functions of `schedule.c`

The functions a reaction calls to schedule an action check their arguments, then either hand the
action to `_lf_schedule_value`, or call `_lf_schedule` themselves inside the critical section of
the action's environment and wake the main thread with `lf_notify_of_event`.  Neither
`_lf_schedule` nor the critical-section macros are under `src/`, so a call is modelled by what it
does, in order (`Effect`), and what it returns (`Returned`).

Each function is straight-line: one test of its arguments, then one fixed sequence of calls.  The
model records them as the source has them — the `length < 0` test of `lf_schedule_copy` on a
`size_t`, which never holds, and its read through `action` before the test `action == NULL` —
and `lf_check_deadline`, whose sum of logical time and deadline is taken exactly, its overflow
being undefined in C.
-/

namespace ReactorC.Api

/-! ## What a call does -/

/-- What the API reads through an action pointer: the environment of the action's reactor
(`action->parent->environment`), its trigger, and the element size of its type
(`template->type.element_size`). -/
structure Action (τ ε : Type) where
  env : ε
  trigger : τ
  elementSize : Nat
  deriving DecidableEq, Repr

/-- A step a call of the API takes. -/
inductive Effect (τ ε : Type)
  /-- `LF_CRITICAL_SECTION_ENTER(env)`. -/
  | enter (env : ε)
  /-- `LF_CRITICAL_SECTION_EXIT(env)`. -/
  | exit (env : ε)
  /-- `lf_notify_of_event(env)`. -/
  | notify (env : ε)
  /-- `_lf_schedule(env, trigger, extra_delay, token)`, `none` for a `NULL` token. -/
  | schedule (env : ε) (trigger : τ) (extraDelay : Int) (token : Option Token)
  /-- `_lf_schedule_value(action, extra_delay, value, length)`, `none` for a `NULL` action or
  value. -/
  | scheduleValue (action : Option (Action τ ε)) (extraDelay : Int) (value : Option (List UInt8))
      (length : Nat)
  /-- `lf_print_error(...)`. -/
  | printError (msg : String)
  deriving DecidableEq, Repr

/-- What a call returns. -/
inductive Returned
  /-- What `_lf_schedule` or `_lf_schedule_value` returned. -/
  | handle
  /-- `-1`. -/
  | minusOne
  /-- The call reads through a `NULL` action before returning. -/
  | nullRead
  deriving DecidableEq, Repr

/-! ## The functions -/

variable {τ ε : Type}

/-- `lf_schedule_token(action, extra_delay, token)`. -/
def lfScheduleToken (action : Option (Action τ ε)) (extraDelay : Int) (token : Option Token) :
    List (Effect τ ε) × Returned :=
  match action with
  | none => ([], .nullRead)
  | some a => ([.enter a.env, .schedule a.env a.trigger extraDelay token, .notify a.env, .exit a.env],
      .handle)

/-- `lf_schedule(action, offset)`. -/
def lfSchedule (action : Option (Action τ ε)) (offset : Int) : List (Effect τ ε) × Returned :=
  lfScheduleToken action offset none

/-- `lf_schedule_int(action, extra_delay, value)` on a host of byte order `host`, `sizeof(int)`
being `4`: the value goes in a fresh `int`, scheduled with length `1`. -/
def lfScheduleInt (host : Endian) (action : Option (Action τ ε)) (extraDelay value : Int) :
    List (Effect τ ε) × Returned :=
  match action with
  | none => ([], .nullRead)
  | some a =>
    if a.elementSize ≠ 4 then
      ([.printError ("Action type is not an integer. element_size is " ++ toString a.elementSize)],
        .minusOne)
    else ([.scheduleValue (some a) extraDelay (some (hostBytes host 4 (value % 2 ^ 32).toNat)) 1],
      .handle)

/-- `lf_schedule_copy(action, offset, value, length)`, `value` being `NULL` or the bytes from
`value` on.  The token is `_lf_initialize_token(template, length)` (not under `src/`) with the
bytes `memcpy` copies, `element_size * length` computed in `size_t`.  `action` is read through
for its environment before the test `action == NULL`. -/
def lfScheduleCopy (action : Option (Action τ ε)) (offset : Int) (value : Option (List UInt8))
    (length : Nat) : List (Effect τ ε) × Returned :=
  if length < 0 then
    ([.printError ("schedule_copy(): Ignoring request to copy a value with a negative length (" ++
      toString length ++ ").")], .minusOne)
  else
    match value, action with
    | none, _ => lfScheduleToken action offset none
    | some _, none => ([], .nullRead)
    | some v, some a =>
      if a.elementSize ≤ 0 then ([.printError "schedule: Invalid element size."], .minusOne)
      else
        ([.enter a.env,
          .schedule a.env a.trigger offset
            (some ⟨a.elementSize, v.take (a.elementSize * length % 2 ^ 64), length⟩),
          .notify a.env, .exit a.env], .handle)

/-- `lf_schedule_value(action, extra_delay, value, length)`: the `int` length, converted to
`size_t` once it is known not to be negative. -/
def lfScheduleValue (action : Option (Action τ ε)) (extraDelay : Int) (value : Option (List UInt8))
    (length : Int) : List (Effect τ ε) × Returned :=
  if length < 0 then
    ([.printError ("schedule_value(): Ignoring request to schedule an action with a value that " ++
      "has a negative length (" ++ toString length ++ ").")], .minusOne)
  else ([.scheduleValue action extraDelay value length.toNat], .handle)

/-! ## `lf_check_deadline` -/

/-- `lf_check_deadline(self, invoke_deadline_handler)` at physical time `physical` and logical
time `logical`, the executing reaction's deadline being `deadline`: whether it calls the
reaction's deadline-violation handler, and what it returns.  `logical + deadline` is taken
exactly: its overflow in `int64_t` is undefined in C. -/
def lfCheckDeadline (physical logical deadline : Int) (invokeDeadlineHandler : Bool) : Bool × Bool :=
  if physical > logical + deadline then (invokeDeadlineHandler, true) else (false, false)

end ReactorC.Api
