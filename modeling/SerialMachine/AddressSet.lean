/-!
# Sets of addresses

A finite set of addresses, kept as the increasing list of its elements, so that equal sets are
equal.
-/

namespace SerialMachine

theorem AddressSet.increasing_nil : ([] : List Int).Pairwise (· < ·) :=
  List.Pairwise.nil

/-- A finite set of addresses. -/
structure AddressSet where
  /-- The elements in increasing order. -/
  toList : List Int := []
  increasing : toList.Pairwise (· < ·) := by exact AddressSet.increasing_nil
  deriving DecidableEq

namespace AddressSet

instance : Inhabited AddressSet := ⟨{}⟩

/-- An increasing list with one more element. -/
def insertList (a : Int) : List Int → List Int
  | [] => [a]
  | b :: rest =>
    if a < b then a :: b :: rest else if a = b then b :: rest else b :: insertList a rest

theorem mem_insertList {a x : Int} {xs : List Int} : x ∈ insertList a xs ↔ x = a ∨ x ∈ xs := by
  induction xs with
  | nil => simp [insertList]
  | cons b rest ih =>
    simp only [insertList]
    split
    · simp
    · split
      · next h => subst h; simp
      · simp only [List.mem_cons, ih]
        exact or_left_comm

/-- An address that is put in can be taken out again. -/
theorem filter_insertList {a : Int} {xs : List Int} (absent : a ∉ xs) :
    (insertList a xs).filter (· != a) = xs := by
  induction xs with
  | nil => simp [insertList]
  | cons b rest ih =>
    rw [List.mem_cons, not_or] at absent
    have other : (b != a) = true := by simpa using Ne.symm absent.1
    have kept : rest.filter (· != a) = rest := by
      rw [List.filter_eq_self]
      intro x member
      simp only [bne_iff_ne]
      rintro rfl
      exact absent.2 member
    simp only [insertList]
    split
    · simp [other, kept]
    · simp [other, absent.1, ih absent.2]

theorem insertList_increasing {a : Int} {xs : List Int} (h : xs.Pairwise (· < ·)) :
    (insertList a xs).Pairwise (· < ·) := by
  induction xs with
  | nil => simp [insertList]
  | cons b rest ih =>
    have below : ∀ {x}, x ∈ rest → b < x := List.rel_of_pairwise_cons h
    simp only [insertList]
    split
    · next ab =>
      refine List.Pairwise.cons (fun x hx => ?_) h
      rcases List.mem_cons.1 hx with rfl | hx
      · exact ab
      · exact Int.lt_trans ab (below hx)
    · split
      · exact h
      · refine List.Pairwise.cons (fun x hx => ?_) (ih h.of_cons)
        rcases mem_insertList.1 hx with rfl | hx
        · omega
        · exact below hx

/-- The set with no elements. -/
def empty : AddressSet := {}

/-- Whether an address is an element. -/
def contains (s : AddressSet) (a : Int) : Bool :=
  s.toList.contains a

/-- The number of elements. -/
def size (s : AddressSet) : Nat :=
  s.toList.length

/-- The set with an address put in. -/
def insert (s : AddressSet) (a : Int) : AddressSet :=
  { toList := insertList a s.toList, increasing := insertList_increasing s.increasing }

/-- The set with an address taken out. -/
def erase (s : AddressSet) (a : Int) : AddressSet :=
  { toList := s.toList.filter (· != a), increasing := s.increasing.filter _ }

@[simp] theorem contains_empty (a : Int) : empty.contains a = false := rfl

@[simp] theorem contains_insert (s : AddressSet) (a b : Int) :
    (s.insert a).contains b = (b == a || s.contains b) := by
  rw [Bool.eq_iff_iff]
  simp [contains, insert, mem_insertList]

@[simp] theorem contains_erase (s : AddressSet) (a b : Int) :
    (s.erase a).contains b = (s.contains b && b != a) := by
  rw [Bool.eq_iff_iff]
  simp [contains, erase]

theorem erase_insert {s : AddressSet} {a : Int} (absent : s.contains a = false) :
    (s.insert a).erase a = s := by
  have outside : a ∉ s.toList := by simpa [contains] using absent
  cases s
  simp only [erase, insert, filter_insertList outside]

end AddressSet

end SerialMachine
