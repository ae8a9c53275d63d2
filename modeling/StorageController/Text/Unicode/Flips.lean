namespace StorageController.Text

/-- Membership of `n` in the set that starts at the first place, ends before the second, and so on. -/
def flipped : List Nat → Nat → Bool
  | [], _ => false
  | place :: places, n => if n < place then false else !flipped places n

end StorageController.Text
