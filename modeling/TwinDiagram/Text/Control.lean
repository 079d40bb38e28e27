namespace TwinDiagram.Text

def isParameter (c : Char) : Bool := ('0' ≤ c && c ≤ '9') || c == ';' || c == '?'

def afterSequence? : List Char → Option (List Char)
  | '[' :: rest =>
    match rest.dropWhile isParameter with
    | c :: rest => if c.isAlpha then some rest else none
    | [] => none
  | _ => none

theorem length_lt_of_afterSequence? {cs rest : List Char} (h : afterSequence? cs = some rest) :
    rest.length < cs.length := by
  unfold afterSequence? at h
  split at h
  · next rest' =>
    have hle := (List.dropWhile_suffix isParameter (l := rest')).length_le
    split at h
    · next heq =>
      rw [heq, List.length_cons] at hle
      split at h
      · simp only [Option.some.injEq] at h
        rw [List.length_cons, ← h]
        omega
      · simp at h
    · simp at h
  · simp at h

def dropSequences (cs : List Char) : List Char :=
  match cs with
  | [] => []
  | c :: rest =>
    match _h : if c = '\u001b' then afterSequence? rest else none with
    | some after => dropSequences after
    | none => c :: dropSequences rest
termination_by cs.length
decreasing_by
  · split at _h
    · have := length_lt_of_afterSequence? _h
      rw [List.length_cons]
      omega
    · simp at _h
  · simp

def isMove (c : Char) : Bool :=
  c == '\u0007' || c == '\u0008' || c == '\u000b' || c == '\u000c' || c == '\r'

end TwinDiagram.Text
