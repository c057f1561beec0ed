import QueryTree.Log.File
import QueryTree.Proofs.Text.Cut

/-!
Which files paths name. No path leads out of the working directory, and every file below it is named
by a path of its own.
-/
namespace QueryTree.Log.File

/-- Whether a text is the name of a directory or of a file. -/
structure IsPart (part : String) : Prop where
  filled : part ≠ ""
  notHere : part ≠ "."
  notAbove : part ≠ ".."
  single : '/' ∉ part.toList

/-- Whether a file is one that a path can name. -/
structure Below (file : File) : Prop where
  directory : ∀ part ∈ file.directory, IsPart part
  name : IsPart file.name

variable {path part : String} {file : File}

private theorem isPart_of_mem_parts (member : part ∈ parts path) (notAbove : part ≠ "..") :
    IsPart part := by
  obtain ⟨present, kept⟩ := List.mem_filter.mp member
  obtain ⟨filled, notHere⟩ := of_decide_eq_true kept
  refine ⟨filled, notHere, notAbove, ?_⟩
  obtain ⟨piece, within, rfl⟩ := List.mem_map.mp present
  rw [Text.pieces_eq_splitOn] at within
  rw [String.toList_ofList]
  exact Text.not_mem_of_mem_splitOn within

/-- A way is one of parts throughout, whatever turns it takes. -/
private theorem isPart_of_follow {way rest reached : List String}
    (found : follow way rest = some reached) (behind : ∀ part ∈ way, IsPart part)
    (ahead : ∀ part ∈ rest, part ≠ ".." → IsPart part) : ∀ part ∈ reached, IsPart part := by
  fun_induction follow way rest with
  | case1 way =>
    obtain rfl := Option.some.inj found
    exact behind
  | case2 => cases found
  | case3 way rest inside ih =>
    refine ih found (fun part member => behind part ((List.dropLast_sublist way).subset member)) ?_
    exact fun part member => ahead part (List.mem_cons_of_mem _ member)
  | case4 way part rest notAbove ih =>
    refine ih found (fun other member => ?_) fun other member => ahead other (.tail _ member)
    rcases List.mem_append.mp member with earlier | last
    · exact behind other earlier
    · obtain rfl := List.mem_singleton.mp last
      exact ahead other (.head _) notAbove

private theorem follow_eq_append {way rest : List String} (ahead : ∀ part ∈ rest, IsPart part) :
    follow way rest = some (way ++ rest) := by
  fun_induction follow way rest with
  | case1 way => rw [List.append_nil]
  | case2 | case3 => exact absurd rfl (ahead _ (.head _)).notAbove
  | case4 way part rest _ ih =>
    rw [ih fun other member => ahead other (.tail _ member), List.append_assoc]
    rfl

private theorem isPart_nameOf : IsPart (nameOf (parts path)) := by
  have default : IsPart defaultName := ⟨by decide, by decide, by decide, by decide⟩
  unfold nameOf
  split
  · exact default
  · exact default
  next part notAbove last =>
    exact isPart_of_mem_parts (List.mem_of_getLast? last) fun same => notAbove (same ▸ rfl)

/-- No path leads out of the working directory. -/
theorem below_of_ofPath? (named : ofPath? path = some file) : Below file := by
  unfold ofPath? at named
  dsimp only at named
  split at named
  next => cases named
  next =>
    obtain ⟨directory, reached, rfl⟩ := Option.map_eq_some_iff.mp named
    refine ⟨isPart_of_follow reached nofun fun part member notAbove => ?_, isPart_nameOf⟩
    exact isPart_of_mem_parts ((List.dropLast_sublist _).subset member) notAbove

private theorem splitOn_intercalate {names : List String}
    (single : ∀ part ∈ names, '/' ∉ part.toList) (filled : names ≠ []) :
    ("/".intercalate names).toList.splitOn '/' = names.map String.toList := by
  rw [String.toList_intercalate]
  exact List.splitOn_intercalate '/' (by simpa using single) (by simpa using filled)

section
variable {names : List String} (named : ∀ part ∈ names, IsPart part) (filled : names ≠ [])
include named filled

private theorem parts_intercalate : parts ("/".intercalate names) = names := by
  have back : (names.map String.toList).map String.ofList = names := by simp
  rw [parts, Text.pieces_eq_splitOn,
    splitOn_intercalate (fun part member => (named part member).single) filled, back,
    List.filter_eq_self]
  intro part member
  exact decide_eq_true ⟨(named part member).filled, (named part member).notHere⟩

private theorem not_startsWith_intercalate : ¬ ("/".intercalate names).startsWith "/" = true := by
  rw [String.startsWith_string_iff]
  rintro ⟨rest, begins⟩
  have split := splitOn_intercalate (fun part member => (named part member).single) filled
  have front : ("/".toList ++ rest).splitOn '/' = [] :: rest.splitOn '/' :=
    List.splitOn_append_cons_self [] rest
  rw [← begins, front] at split
  -- In front of the first stroke there would be an empty part.
  have empty : [] ∈ names.map String.toList := split ▸ .head _
  obtain ⟨part, member, nothing⟩ := List.mem_map.mp empty
  exact (named part member).filled (String.toList_eq_nil_iff.mp nothing)

end

/-- Every file below the working directory is named by the path that is made of its parts. -/
theorem ofPath?_intercalate (below : Below file) :
    ofPath? ("/".intercalate (file.directory ++ [file.name])) = some file := by
  have named : ∀ part ∈ file.directory ++ [file.name], IsPart part := by
    intro part member
    rcases List.mem_append.mp member with inside | last
    · exact below.directory part inside
    · exact List.mem_singleton.mp last ▸ below.name
  have name : nameOf (file.directory ++ [file.name]) = file.name := by
    unfold nameOf
    rw [List.getLast?_concat]
    split
    next same => exact absurd (Option.some.inj same) below.name.notAbove
    next same => cases same
    next same => exact (Option.some.inj same).symm
  have relative := not_startsWith_intercalate named (by simp)
  unfold ofPath?
  simp only [parts_intercalate named (by simp), name, List.dropLast_concat,
    follow_eq_append below.directory]
  rw [if_neg fun absolute => relative absolute.2]
  rfl

/-- Different files have different paths on a day. -/
theorem path_injective {other : File} (below : Below file) (below' : Below other) {day : String}
    (single : '/' ∉ day.toList) (same : file.path day = other.path day) : file = other := by
  have named {file : File} (below : Below file) (part : String)
      (member : part ∈ file.directory ++ [file.name ++ "." ++ day]) : '/' ∉ part.toList := by
    rcases List.mem_append.mp member with inside | last
    · exact (below.directory part inside).single
    · rw [List.mem_singleton.mp last]
      simpa [single] using below.name.single
  have split := splitOn_intercalate (named below) (by simp)
  have split' := splitOn_intercalate (named below') (by simp)
  rw [← path] at split split'
  rw [same, split'] at split
  have parts := (List.map_inj_right fun _ _ => String.toList_inj.mp).mp split
  obtain ⟨directory, last⟩ := List.append_inj' parts rfl
  have dated : other.name ++ ("." ++ day) = file.name ++ ("." ++ day) := by
    simpa [String.append_assoc] using last
  have name : file.name = other.name := ((String.append_left_inj _).mp dated).symm
  exact congr (congrArg File.mk directory.symm) name

end QueryTree.Log.File
