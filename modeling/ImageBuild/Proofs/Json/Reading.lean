import ImageBuild.Json.Reader

/-!
# Reading objects member by member

The reader of JSON never looks behind the value that it reads, so a text may be
read in parts.

* `ReadsMember`, `ReadsMembers`: what a text is read as in front of any other text.
* `ReadsMembers.run`: members behind those that have been read.
* `ReadsMembers.readValue_eq`: the object that is read when its members are.
-/

namespace ImageBuild.Json

/-- In front of any other text, a text is read as a member of an object, and `left`
is what remains of it. -/
def ReadsMember (levels : Nat) (text : List Char) (member : String × Json)
    (left : List Char) : Prop :=
  ∀ rest, (skipSpace (text ++ rest)).head? = some '"' ∧
    readMember (readValue levels) (skipSpace (text ++ rest)).tail = .ok (member, left ++ rest)

/-- The end of a line with a member that others follow. -/
def comma : List Char := [',', '\n']

variable {levels fuel : Nat} {text behind left rest : List Char} {member : String × Json}
  {members others done : List (String × Json)}

theorem ReadsMember.inner (h : ReadsMember levels text member left) (rest : List Char) :
    ∃ inner, skipSpace (text ++ rest) = '"' :: inner ∧
      readMember (readValue levels) inner = .ok (member, left ++ rest) := by
  obtain ⟨hhead, hread⟩ := h rest
  obtain ⟨inner, hskip⟩ := List.head?_eq_some_iff.mp hhead
  rw [hskip, List.tail_cons] at hread
  exact ⟨inner, hskip, hread⟩

theorem readMembers_newline (value : List Char → Except Stop (Json × List Char)) :
    readMembers value (fuel + 1) done ('\n' :: text) = readMembers value (fuel + 1) done text := by
  have hskip : skipSpace ('\n' :: text) = skipSpace text := rfl
  rw [readMembers, readMembers, hskip]

theorem readMembers_end (value : List Char → Except Stop (Json × List Char))
    (htext : skipSpace text = '}' :: rest) :
    readMembers value (fuel + 1) done text = .ok (done.reverse, rest) := by
  rw [readMembers]
  simp only [htext]

/-- What stands in front of the next member of an object, when some have been read. -/
def gap : List (String × Json) → List Char
  | [] => []
  | _ :: _ => comma

/-- One more member of an object. -/
theorem ReadsMember.step (h : ReadsMember levels text member left)
    (done : List (String × Json)) (rest : List Char) :
    readMembers (readValue levels) (fuel + 1) done (gap done ++ (text ++ rest)) =
      readMembers (readValue levels) fuel (member :: done) (left ++ rest) := by
  obtain ⟨inner, hskip, hread⟩ := h.inner rest
  cases done with
  | nil =>
      rw [gap, List.nil_append, readMembers]
      simp [hskip, hread, bind, Except.bind]
  | cons before done =>
      have hcomma : skipSpace (comma ++ (text ++ rest)) = ',' :: '\n' :: (text ++ rest) := rfl
      have hnewline : skipSpace ('\n' :: (text ++ rest)) = '"' :: inner := hskip
      rw [gap, readMembers]
      simp [hcomma, hnewline, hread, bind, Except.bind]

theorem ReadsMember.ne_nil (h : ReadsMember levels text member left) : text ≠ [] := by
  rintro rfl
  obtain ⟨hhead, -⟩ := h []
  cases hhead

/-- A text is read as members of an object, the one behind the other, and `left` is what
remains of it. -/
inductive ReadsMembers (levels : Nat) : List Char → List (String × Json) → List Char → Prop where
  | last {text left : List Char} {member : String × Json}
      (h : ReadsMember levels text member left) : ReadsMembers levels text [member] left
  | next {text behind left : List Char} {member : String × Json} {members : List (String × Json)}
      (h : ReadsMember levels text member comma) (hbehind : ReadsMembers levels behind members left) :
      ReadsMembers levels (text ++ behind) (member :: members) left

namespace ReadsMembers

theorem append (h : ReadsMembers levels text members comma)
    (hbehind : ReadsMembers levels behind others left) :
    ReadsMembers levels (text ++ behind) (members ++ others) left := by
  -- Induction needs a variable for what the members in front leave.
  generalize hcomma : comma = sep at h
  induction h with
  | last h => exact .next (hcomma ▸ h) hbehind
  | next h _ ih =>
      rw [List.append_assoc]
      exact .next h (ih hcomma)

/-- Each member takes up some of the text. -/
theorem length_le (h : ReadsMembers levels text members left) : members.length ≤ text.length := by
  induction h with
  | last h => exact List.length_pos_iff.mpr h.ne_nil
  | next h _ ih =>
      have hpos := List.length_pos_iff.mpr h.ne_nil
      rw [List.length_cons, List.length_append]
      omega

/-- The members of a text come behind those that have been read. -/
theorem run (h : ReadsMembers levels text members left) (done : List (String × Json))
    (rest : List Char) :
    readMembers (readValue levels) (fuel + members.length) done (gap done ++ (text ++ rest)) =
      readMembers (readValue levels) fuel (members.reverse ++ done) (left ++ rest) := by
  induction h generalizing done with
  | last h => exact h.step done rest
  | next h _ ih =>
      rw [List.length_cons, ← Nat.add_assoc, List.append_assoc, h.step, List.reverse_cons,
        List.append_assoc]
      exact ih _

end ReadsMembers

/-- An object with its brace at the end of a line stands for the members that are read
behind it. -/
theorem ReadsMembers.readValue_eq {whole closing : List Char}
    (h : ReadsMembers levels text members left)
    (hopening : skipSpace whole = '{' :: '\n' :: (text ++ closing))
    (hclosing : skipSpace (left ++ closing) = '}' :: rest) :
    readValue (levels + 1) whole = .ok (ofPairs members, rest) := by
  have hmembers : readMembers (readValue levels) (('\n' :: (text ++ closing)).length + 1) []
      ('\n' :: (text ++ closing)) = .ok (members, rest) := by
    -- There is fuel for all members and one more step.
    obtain ⟨fuel, hfuel⟩ := Nat.exists_eq_add_of_le' h.length_le
    have hbound : ('\n' :: (text ++ closing)).length + 1 =
        fuel + closing.length + 2 + members.length := by
      rw [List.length_cons, List.length_append, hfuel]
      omega
    calc readMembers (readValue levels) (('\n' :: (text ++ closing)).length + 1) []
          ('\n' :: (text ++ closing))
        = readMembers (readValue levels) (fuel + closing.length + 2 + members.length) []
            (gap [] ++ (text ++ closing)) := by rw [readMembers_newline, hbound]; rfl
      _ = readMembers (readValue levels) (fuel + closing.length + 2) (members.reverse ++ [])
            (left ++ closing) := h.run [] closing
      _ = .ok ((members.reverse ++ []).reverse, rest) := readMembers_end _ hclosing
      _ = .ok (members, rest) := by rw [List.append_nil, List.reverse_reverse]
  rw [readValue]
  simp only [hopening, hmembers]
  rfl

theorem readMember_eq {value : List Char → Except Stop (Json × List Char)} {name : String}
    {item : Json} {gap behind : List Char} (hname : readString text = .ok (name, gap))
    (hgap : skipSpace gap = ':' :: behind) (hitem : value behind = .ok (item, rest)) :
    readMember value text = .ok ((name, item), rest) := by
  rw [readMember, hname]
  simp only [bind, Except.bind, hgap, hitem]

theorem readAll_eq {value : Json} (hvalue : readValue 127 text = .ok (value, left))
    (hleft : skipSpace left = []) : readAll text = .ok value := by
  rw [readAll, hvalue]
  simp [bind, Except.bind, hleft]

theorem read_eq {source : String} {value : Json} (h : readAll source.toList = .ok value) :
    read source = .ok value := by
  unfold read
  simp only [h]

end ImageBuild.Json
