import Mathlib.Data.UInt

/-! The errors an instruction can be refused with, and how a guarded step reads back. -/

namespace Batchit

/-- The program's own errors. -/
inductive BatchitError where
  | BadStatus
  | ContributionTooSmall
  | MaxPoolExceeded
  | ContributionClosed
  | LaunchTooEarly
  | LaunchGraceExpired
  | MinRaiseNotMet
  | MintAlreadySet
  | MintNotSet
  | MintMismatch
  | CreateNotLanded
  | BuyFailed
  | MathOverflow
  | NothingToClaim
  | NothingToRefund
  | RefundNotAllowed
  | ClaimNotAllowed
  | NotContributor
  | BadFeeRecipient
  | BadPumpRemaining
  | Unauthorized
  | PoolNotEmpty
  | InvalidParams
  | ZeroAmount
  | ZeroTokensBought
  | DistributableTooLarge
  deriving DecidableEq, Repr

/-- Refusals of the account constraints, the runtime and the programs called. -/
inductive RuntimeError where
  | MissingRequiredSignature
  | AccountNotInitialized
  | AccountAlreadyInUse
  | AccountNotWritable
  | ConstraintSeeds
  | ConstraintHasOne
  | ConstraintAddress
  | InsufficientFunds
  | ArithmeticOverflow
  | OwnerMismatch
  | MintMismatch
  | NonNativeHasBalance
  | ExternalAccountLamportSpend
  deriving DecidableEq, Repr

/-- Everything a call can be refused with. -/
inductive Error where
  | batchit (error : BatchitError)
  | runtime (error : RuntimeError)
  deriving DecidableEq, Repr

/-- Refuse with the program's error unless the condition holds. -/
def require (condition : Prop) [Decidable condition] (error : BatchitError) : Except Error Unit :=
  if condition then .ok () else .error (.batchit error)

/-- Refuse with an account or runtime error unless the condition holds. -/
def constraint (condition : Prop) [Decidable condition] (error : RuntimeError) :
    Except Error Unit :=
  if condition then .ok () else .error (.runtime error)

/-- The value of an optional result, or the program's error when there is none. -/
def okOr {α : Type} (value : Option α) (error : BatchitError) : Except Error α :=
  match value with
  | some result => .ok result
  | none => .error (.batchit error)

/-- The value of an optional result, or a runtime error when there is none. -/
def found {α : Type} (value : Option α) (error : RuntimeError) : Except Error α :=
  match value with
  | some result => .ok result
  | none => .error (.runtime error)

/-- The error a computation is refused with, if it is. -/
def refusal {α : Type} : Except Error α → Option Error
  | .ok _ => none
  | .error error => some error

/-- A computation is refused with exactly the error it ends in. -/
theorem refusal_eq_some {α : Type} {outcome : Except Error α} {error : Error} :
    refusal outcome = some error ↔ outcome = .error error := by
  cases outcome <;> simp [refusal]

/-- A sequenced computation succeeds exactly when both of its parts do. -/
@[simp] theorem bind_eq_ok {α β : Type} {first : Except Error α} {next : α → Except Error β}
    {result : β} :
    (first >>= next) = .ok result ↔ ∃ value, first = .ok value ∧ next value = .ok result := by
  cases first with
  | error refusal => simp [Bind.bind, Except.bind]
  | ok value => simp [Bind.bind, Except.bind]

/-- A step that succeeds hands its value to the rest. -/
theorem bind_of_ok {α β : Type} {first : Except Error α} {next : α → Except Error β} {value : α}
    (ok : first = .ok value) : (first >>= next) = next value := by
  rw [ok]
  rfl

/-- A step that is refused refuses the whole. -/
theorem bind_of_error {α β : Type} {first : Except Error α} {next : α → Except Error β}
    {error : Error} (refused : first = .error error) : (first >>= next) = .error error := by
  rw [refused]
  rfl

/-- A requirement that holds passes. -/
theorem require_of {condition : Prop} [Decidable condition] {error : BatchitError}
    (holds : condition) : require condition error = .ok () := if_pos holds

/-- A constraint that holds passes. -/
theorem constraint_of {condition : Prop} [Decidable condition] {error : RuntimeError}
    (holds : condition) : constraint condition error = .ok () := if_pos holds

/-- A requirement that fails refuses with its error. -/
theorem require_of_not {condition : Prop} [Decidable condition] {error : BatchitError}
    (fails : ¬ condition) : require condition error = .error (.batchit error) := if_neg fails

/-- A requirement passes exactly when its condition holds. -/
@[simp] theorem require_eq_ok {condition : Prop} [Decidable condition] {error : BatchitError}
    {passed : Unit} : require condition error = .ok passed ↔ condition := by
  by_cases holds : condition <;> simp [require, holds]

/-- A constraint passes exactly when its condition holds. -/
@[simp] theorem constraint_eq_ok {condition : Prop} [Decidable condition] {error : RuntimeError}
    {passed : Unit} : constraint condition error = .ok passed ↔ condition := by
  by_cases holds : condition <;> simp [constraint, holds]

/-- A checked result passes exactly when there is one. -/
@[simp] theorem okOr_eq_ok {α : Type} {value : Option α} {error : BatchitError} {result : α} :
    okOr value error = .ok result ↔ value = some result := by
  cases value <;> simp [okOr]

/-- A looked-up account passes exactly when it is there. -/
@[simp] theorem found_eq_ok {α : Type} {value : Option α} {error : RuntimeError} {result : α} :
    found value error = .ok result ↔ value = some result := by
  cases value <;> simp [found]

/-- Returning a value succeeds with that value. -/
@[simp] theorem pure_eq_ok {α : Type} {value result : α} :
    (pure value : Except Error α) = .ok result ↔ value = result := by
  simp [Pure.pure, Except.pure]

/-! ### What a computation can be refused with -/

/-- A computation is refused, if at all, with an error of the given kind. -/
def RefusesOnly {α : Type} (kind : Error → Prop) (outcome : Except Error α) : Prop :=
  ∀ error, outcome = .error error → kind error

namespace RefusesOnly

variable {α β : Type} {kind : Error → Prop}

/-- A computation that spares an error does not end in it. -/
theorem ne {outcome : Except Error α} {error : Error}
    (spared : RefusesOnly (· ≠ error) outcome) : outcome ≠ .error error := by
  intro refused
  exact spared error refused rfl

/-- A sequenced computation refuses as its parts do. -/
theorem bind {first : Except Error α} {next : α → Except Error β}
    (head : RefusesOnly kind first) (tail : ∀ value, RefusesOnly kind (next value)) :
    RefusesOnly kind (first >>= next) := by
  intro error refused
  -- The refusal is the first computation's, or that of what follows.
  cases first with
  | error refusal =>
    cases refused
    exact head _ rfl
  | ok value => exact tail value error refused

/-- A sequenced computation refuses as its parts do, the later one on what the earlier returned. -/
theorem bindOk {first : Except Error α} {next : α → Except Error β}
    (head : RefusesOnly kind first)
    (tail : ∀ value, first = .ok value → RefusesOnly kind (next value)) :
    RefusesOnly kind (first >>= next) := by
  intro error refused
  -- What follows is only run on the value that the first computation gave.
  cases first with
  | error refusal =>
    cases refused
    exact head _ rfl
  | ok value => exact tail value rfl error refused

/-- A computation that succeeds refuses nothing. -/
theorem of_ok {outcome : Except Error α} {value : α} (ok : outcome = .ok value) :
    RefusesOnly kind outcome := by
  intro error refused
  rw [ok] at refused
  cases refused

/-- A requirement refuses with its own error. -/
theorem require {condition : Prop} [Decidable condition] {error : BatchitError}
    (own : kind (.batchit error)) : RefusesOnly kind (Batchit.require condition error) := by
  intro refusal refused
  unfold Batchit.require at refused
  -- A condition that holds refuses nothing.
  split at refused
  · cases refused
  · cases refused
    exact own

/-- A constraint refuses with its own error. -/
theorem constraint {condition : Prop} [Decidable condition] {error : RuntimeError}
    (own : kind (.runtime error)) : RefusesOnly kind (Batchit.constraint condition error) := by
  intro refusal refused
  unfold Batchit.constraint at refused
  -- A condition that holds refuses nothing.
  split at refused
  · cases refused
  · cases refused
    exact own

/-- A checked result refuses with the error it names. -/
theorem okOr {value : Option α} {error : BatchitError} (own : kind (.batchit error)) :
    RefusesOnly kind (Batchit.okOr value error) := by
  intro refusal refused
  -- A value that is there refuses nothing.
  cases value with
  | none =>
    cases refused
    exact own
  | some result => cases refused

/-- A looked-up account refuses with the error it names. -/
theorem found {value : Option α} {error : RuntimeError} (own : kind (.runtime error)) :
    RefusesOnly kind (Batchit.found value error) := by
  intro refusal refused
  -- A value that is there refuses nothing.
  cases value with
  | none =>
    cases refused
    exact own
  | some result => cases refused

/-- Returning a value refuses nothing. -/
theorem pure (value : α) : RefusesOnly kind (Pure.pure value : Except Error α) := by
  intro refusal refused
  cases refused

end RefusesOnly

end Batchit
