import Mathdown.FileTree.Route
import Mathdown.Proofs.FileTree.Changes

namespace Mathdown.FileTree

variable {t : FileTree} {place names : Place} {name : String} {cs rest : List Char}

/-- Whether something in a directory may have the name. -/
structure IsName (name : String) : Prop where
  nonempty : name ≠ ""
  notStay : name ≠ "."
  notUp : name ≠ ".."
  single : '/' ∉ name.toList

private theorem splitRoute_of_single (single : '/' ∉ cs) : splitRoute cs = [cs] := by
  induction cs with
  | nil => rfl
  | cons c cs ih =>
    rw [List.mem_cons, not_or] at single
    rw [splitRoute, if_neg (Ne.symm single.1), ih single.2]

private theorem splitRoute_append (single : '/' ∉ cs) (rest : List Char) :
    splitRoute (cs ++ '/' :: rest) = cs :: splitRoute rest := by
  induction cs with
  | nil => rfl
  | cons c cs ih =>
    rw [List.mem_cons, not_or] at single
    rw [List.cons_append, splitRoute, if_neg (Ne.symm single.1), ih single.2]

private theorem splitRoute_intercalate (single : ∀ name ∈ names, '/' ∉ name.toList) (some : names ≠ []) :
    splitRoute ("/".intercalate names).toList = names.map String.toList := by
  induction names with
  | nil => exact absurd rfl some
  | cons name names ih =>
    obtain ⟨here, others⟩ := List.forall_mem_cons.mp single
    cases names with
    | nil => exact splitRoute_of_single here
    | cons next names =>
      have later := ih others (List.cons_ne_nil next names)
      rw [String.intercalate_cons_cons, String.toList_append, String.toList_append, List.append_assoc,
        List.map_cons, ← later]
      exact splitRoute_append here _

private theorem isAbsolute_route (place : Place) : isAbsolute (route place) = true := by
  rw [isAbsolute, route, String.toList_append]
  rfl

theorem parts_route (proper : ∀ name ∈ place, IsName name) (below : place ≠ []) :
    parts (route place) = "" :: place := by
  have split := splitRoute_intercalate (fun name member => (proper name member).single) below
  have slash : (route place).toList = '/' :: ("/".intercalate place).toList := String.toList_append ..
  rw [parts, slash, splitRoute, if_pos rfl, split, List.map_cons, List.map_map]
  have same : String.ofList ∘ String.toList = id := funext fun name => String.ofList_toList
  rw [same, List.map_id]

private theorem walk_names (proper : ∀ name ∈ names, IsName name)
    (way : ∀ n < names.length, t.find? (place ++ names.take n) = some .directory) :
    t.walk place names = .ok (place ++ names) := by
  induction names generalizing place with
  | nil => rw [List.append_nil]; rfl
  | cons name names ih =>
    obtain ⟨here, others⟩ := List.forall_mem_cons.mp proper
    have start : t.barrier? place = none := by
      have stands := way 0 (Nat.zero_lt_succ _)
      rw [List.take_zero, List.append_nil] at stands
      simp [barrier?, stands]
    have later : t.walk (place ++ [name]) names = .ok (place ++ [name] ++ names) := by
      refine ih others fun n bound => ?_
      have stands := way (n + 1) (Nat.succ_lt_succ bound)
      rwa [List.take_succ_cons, List.append_cons] at stands
    rw [List.append_cons, ← later, walk, start]
    simp [here.nonempty, here.notStay, here.notUp]

theorem readTextAt_route (reaches : t.Reaches place) (proper : ∀ name ∈ place, IsName name)
    (named : IsName name) (current : Place) :
    t.readTextAt current (route (place ++ [name])) = t.readText (place ++ [name]) := by
  have all : ∀ other ∈ place ++ [name], IsName other := by
    simp only [List.forall_mem_append, List.forall_mem_singleton]
    exact ⟨proper, named⟩
  have walked : t.walk [] (place ++ [name]) = .ok (place ++ [name]) := by
    refine walk_names all fun n bound => ?_
    rw [List.length_append, List.length_singleton] at bound
    rw [List.nil_append, List.take_append_of_le_length (Nat.le_of_lt_succ bound)]
    exact reaches n (Nat.le_of_lt_succ bound)
  have resolved : t.resolve current (route (place ++ [name])) = .ok (place ++ [name]) := by
    have some : (route (place ++ [name])).isEmpty = false := by
      rw [Bool.eq_false_iff]
      intro empty
      have absolute := isAbsolute_route (place ++ [name])
      rw [String.isEmpty_iff.mp empty] at absolute
      cases absolute
    rw [resolve, some, if_neg Bool.false_ne_true, isAbsolute_route, if_pos rfl,
      parts_route all (by simp), walk, ← walked]
    simp [barrier?]
  rw [readTextAt, resolved]
  rfl

private theorem dropStays_names (proper : ∀ name ∈ place, IsName name) :
    dropStays true place = place := by
  have kept : (place.reverse.dropWhile fun part => part = "" || part = ".") = place.reverse := by
    cases last : place.reverse with
    | nil => rfl
    | cons name names =>
      have here := proper name (List.mem_reverse.mp (last ▸ List.mem_cons_self ..))
      exact List.dropWhile_cons_of_neg (by simp [here.nonempty, here.notStay])
  rw [dropStays, kept, List.reverse_reverse]
  simp

theorem parent?_route (proper : ∀ name ∈ place, IsName name) (named : IsName name) :
    parent? (route (place ++ [name])) = some (route place) := by
  have all : ∀ other ∈ place ++ [name], IsName other := by
    simp only [List.forall_mem_append, List.forall_mem_singleton]
    exact ⟨proper, named⟩
  have found : dropStays true ((parts (route (place ++ [name]))).drop 1) = place ++ [name] := by
    rw [parts_route all (by simp), List.drop_one, List.tail_cons, dropStays_names all]
  rw [parent?, isAbsolute_route, if_pos rfl, found, List.dropLast_concat, dropStays_names proper]
  simp [route]

end Mathdown.FileTree
