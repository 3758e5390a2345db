namespace BuildFarm

/-- The back is kept in reverse. -/
structure Fifo (α : Type) where
  front : List α
  back : List α
  count : Nat
  count_eq : count = front.length + back.length

namespace Fifo

def empty : Fifo α := ⟨[],[],0,rfl⟩

def toList (q : Fifo α) : List α :=
  q.front ++ q.back.reverse

/-- An empty front is refilled, so that what comes next is found at once. -/
def settle (q : Fifo α) : Fifo α :=
  match hf : q.front with
  | [] => ⟨q.back.reverse,[],q.count,by simp [q.count_eq,hf]⟩
  | _ :: _ => q

def push (q : Fifo α) (a : α) : Fifo α :=
  settle ⟨q.front,a :: q.back,q.count + 1,by simp [q.count_eq,Nat.add_assoc]⟩

def head? (q : Fifo α) : Option α :=
  q.settle.front.head?

def tail (q : Fifo α) : Fifo α :=
  match hf : q.settle.front with
  | _ :: rest =>
    settle ⟨rest,q.settle.back,q.settle.count - 1,by
      have := q.settle.count_eq
      simp [hf] at this
      omega⟩
  | [] => q

@[simp] theorem toList_empty : (empty : Fifo α).toList = [] := rfl

@[simp] theorem toList_settle (q : Fifo α) : q.settle.toList = q.toList := by
  unfold settle toList
  split <;> simp [*]

@[simp] theorem toList_push (q : Fifo α) (a : α) : (q.push a).toList = q.toList ++ [a] := by
  simp [push]
  simp [toList]

theorem count_toList (q : Fifo α) : q.count = q.toList.length := by
  simp [toList,q.count_eq]

theorem back_settle (q : Fifo α) (h : q.settle.front = []) : q.settle.back = [] := by
  unfold settle at *
  split at h <;> simp_all

theorem head?_toList (q : Fifo α) : q.head? = q.toList.head? := by
  rw [← q.toList_settle]
  unfold head?
  cases hf : q.settle.front with
  | nil => simp [toList,hf,q.back_settle hf]
  | cons a rest => simp [toList,hf]

@[simp] theorem toList_tail (q : Fifo α) : q.tail.toList = q.toList.tail := by
  rw [← q.toList_settle]
  unfold tail
  split
  · rename_i a rest hf
    have ht : q.settle.toList = a :: (rest ++ q.settle.back.reverse) := by simp [toList,hf]
    rw [ht,toList_settle]
    simp [toList]
  · rename_i hf
    have ht : q.settle.toList = [] := by simp [toList,hf,q.back_settle hf]
    rw [← q.toList_settle,ht]
    rfl

end Fifo

end BuildFarm
