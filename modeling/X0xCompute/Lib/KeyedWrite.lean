import X0xCompute.Lib.TreeMap

/-!
# Maps written key by key

A store that handles one message at a time and writes at most one key for each: the write
names its key and computes the new value from the one held there. The value at a key after
any sequence of writes is the fold of that key's own writes, so what other keys receive and
how the sequences of different keys interleave cannot be seen there.
-/

namespace Lib

open Std

variable {α β : Type} {cmp : α → α → Ordering} [TransCmp cmp] [LawfulEqCmp cmp]
  [DecidableEq α]

/-- A write at one key: the key, and the new value from the one held there. -/
structure KeyedWrite (α β : Type) where
  key : α
  update : Option β → β

namespace KeyedWrite

/-- The effect of handling one message, which makes a write or none. -/
def apply (m : ExtTreeMap α β cmp) : Option (KeyedWrite α β) → ExtTreeMap α β cmp
  | none => m
  | some w => m.insert w.key (w.update m[w.key]?)

/-- The updates that a sequence of messages makes at `k`, in order. -/
def updatesAt (k : α) (ws : List (Option (KeyedWrite α β))) : List (Option β → β) :=
  ws.filterMap fun w => w.bind fun w => if w.key = k then some w.update else none

/-- The value after a sequence of updates from the value `v`. -/
def replay (v : Option β) (us : List (Option β → β)) : Option β :=
  us.foldl (fun v u => some (u v)) v

theorem getElem?_apply (m : ExtTreeMap α β cmp) (w : Option (KeyedWrite α β)) (k : α) :
    (apply m w)[k]? = replay m[k]? (updatesAt k [w]) := by
  cases w with
  | none => rfl
  | some w =>
    rw [apply, getElem?_insert_eq]
    by_cases hk : w.key = k
    · subst hk
      simp [replay, updatesAt]
    · simp [replay, updatesAt, hk]

/-- The value at a key is the replay of that key's own updates. -/
theorem getElem?_foldl_apply (m : ExtTreeMap α β cmp) (ws : List (Option (KeyedWrite α β)))
    (k : α) : (ws.foldl apply m)[k]? = replay m[k]? (updatesAt k ws) := by
  induction ws generalizing m with
  | nil => rfl
  | cons w ws ih =>
    rw [List.foldl_cons, ih, getElem?_apply, replay, replay, ← List.foldl_append, replay]
    rw [updatesAt, updatesAt, updatesAt, ← List.filterMap_append, List.singleton_append]

/-- Two sequences with the same updates at every key, however interleaved, leave the same
map. -/
theorem foldl_apply_congr {ws ws' : List (Option (KeyedWrite α β))}
    (h : ∀ k, updatesAt k ws = updatesAt k ws') (m : ExtTreeMap α β cmp) :
    ws.foldl apply m = ws'.foldl apply m := by
  apply ExtTreeMap.ext_getElem?
  intro k
  rw [getElem?_foldl_apply, getElem?_foldl_apply, h k]

omit [DecidableEq α] in
/-- The value after a nonempty sequence of updates is the last update's. -/
theorem replay_concat (v : Option β) (us : List (Option β → β)) (u : Option β → β) :
    replay v (us ++ [u]) = some (u (replay v us)) := by
  rw [replay, List.foldl_append]
  rfl

end KeyedWrite

end Lib
