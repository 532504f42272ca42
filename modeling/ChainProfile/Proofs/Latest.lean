/-! The last thing that is read off a list. A list of requests or calls, oldest first, puts in force what
it says last, and a call that says nothing leaves that as it was. -/

namespace ChainProfile

variable {α β : Type}

def latest (reads : α → Option β) (xs : List α) : Option β :=
  xs.reverse.findSome? reads

theorem latest_concat (reads : α → Option β) (xs : List α) (x : α) :
    latest reads (xs ++ [x]) = (reads x).or (latest reads xs) := by
  rw [latest, List.reverse_concat, List.findSome?_cons, latest]
  cases reads x <;> rfl

end ChainProfile
