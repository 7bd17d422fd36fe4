namespace HubConsole

def twoTo (n : Nat) : Nat := Nat.pow 2 n

def tenTo (n : Nat) : Nat := Nat.pow 10 n

theorem tenTo_succ (n : Nat) : tenTo (n + 1) = tenTo n * 10 := rfl

theorem zero_lt_twoTo (n : Nat) : 0 < twoTo n := Nat.two_pow_pos n

theorem zero_lt_tenTo (n : Nat) : 0 < tenTo n := Nat.pow_pos (by decide)

end HubConsole
