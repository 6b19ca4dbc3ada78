import NetIntent.Failure

/-!
Filling a store from a paged listing. The first page is asked for without a cursor and each further
one with the cursor of the page before; a page without one, or with an empty one, is the last. A
listing error or a record without key ends the load, and keeps what was applied before it.
-/

namespace NetIntent.Load

structure Page (R : Type) where
  records : List R
  cursor : Option String

/-- What a page request comes back with; the task behind it may die instead, for a reason that it
leaves. -/
inductive Reply (R : Type) where
  | page (page : Page R)
  | refused (error : ClientError)
  | died (reason : String)

inductive Phase where
  | asking (cursor : Option String)
  | finished (result : Except Failure UInt64)

structure Loader (R : Type) where
  store : Store R
  /-- The number of records applied, modulo `2 ^ 64`. -/
  count : UInt64 := 0
  /-- The cursors asked with so far, the one waiting for its page included. -/
  asked : List (Option String) := [none]
  phase : Phase := .asking none

namespace Loader

variable {R : Type}

def start (store : Store R) : Loader R := { store }

def result? (l : Loader R) : Option (Except Failure UInt64) :=
  match l.phase with
  | .asking _ => none
  | .finished result => some result

def finish (l : Loader R) (result : Except Failure UInt64) : Loader R :=
  { l with phase := .finished result }

variable [Indexed R]

/-- Applies records up to the first without key: the store, how many were applied and what went
wrong. -/
def applyAll (store : Store R) : List R → Store R × Nat × Option StoreError
  | [] => (store, 0, none)
  | record :: rest =>
    match store.apply record with
    | .error e => (store, 0, some e)
    | .ok store =>
      let (store, n, error) := applyAll store rest
      (store, n + 1, error)

def takePage (l : Loader R) (page : Page R) : Loader R :=
  let (store, n, error) := applyAll l.store page.records
  let l := { l with store, count := l.count + UInt64.ofNat n }
  match error with
  | some e => l.finish (.error (.store e))
  | none =>
    match page.cursor.filter (· ≠ "") with
    | some cursor => { l with asked := l.asked ++ [some cursor], phase := .asking (some cursor) }
    | none => l.finish (.ok l.count)

/-- The failure of a task that died. -/
def taskDied (reason : String) : Failure := .internal ("store loader task failed: " ++ reason)

def receive (l : Loader R) (reply : Reply R) : Loader R :=
  match l.phase with
  | .finished _ => l
  | .asking _ =>
    match reply with
    | .page page => l.takePage page
    | .refused e => l.finish (.error (.client e))
    | .died reason => l.finish (.error (taskDied reason))

/-- A load by itself, against a listing that answers in turn. -/
def load (l : Loader R) (replies : List (Reply R)) : Loader R := replies.foldl receive l

end Loader

end NetIntent.Load
