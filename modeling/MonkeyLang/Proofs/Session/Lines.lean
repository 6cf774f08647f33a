import MonkeyLang.Dialogue

/-!
# The lines of a text and the lines of its bytes

A dialogue is given bytes and takes them line by line, each line up to a line feed. In the bytes of
a text only a line feed has the byte of one (`notMem_bytesOf`), so a line of the bytes of a text
is never cut inside a character: the first line of them is the bytes of the first line of the text
(`takeLine_bytesOf`), and it is a text again. A text that is empty or ends with a line feed is its
whole lines, one after the other (`exists_lines`).
-/

set_option autoImplicit false

namespace MonkeyLang

/-! ## The bytes of a text -/

/-- The UTF-8 bytes of a text. -/
def bytesOf (text : String) : List UInt8 :=
  text.toByteArray.data.toList

theorem textOfBytes?_bytesOf (text : String) : textOfBytes? (bytesOf text) = some text := by
  have whole : (⟨(bytesOf text).toArray⟩ : ByteArray) = text.toByteArray := rfl
  rw [textOfBytes?, whole, String.fromUTF8?, dif_pos text.isValidUTF8]
  rfl

@[simp]
theorem bytesOf_append (first rest : String) :
    bytesOf (first ++ rest) = bytesOf first ++ bytesOf rest := by
  rw [bytesOf, String.toByteArray_append, ByteArray.data_append, Array.toList_append]
  rfl

theorem bytesOf_eq_flatMap (text : String) :
    bytesOf text = text.toList.flatMap String.utf8EncodeChar := by
  rw [bytesOf, ← String.utf8Encode_toList, List.utf8Encode]
  simp

theorem bytesOf_lineFeed : bytesOf "\n" = [10] := rfl

theorem ofNat_ne_lineFeed {number : Nat} (other : number ≠ 10) (small : number < 256) :
    10 ≠ UInt8.ofNat number := by
  intro same
  have numbers := congrArg UInt8.toNat same
  rw [UInt8.toNat_ofNat', Nat.mod_eq_of_lt small] at numbers
  exact other numbers.symm

/-- No other character has the byte of a line feed among its bytes. -/
theorem notMem_utf8EncodeChar {character : Char} (other : character ≠ '\n') :
    10 ∉ String.utf8EncodeChar character := by
  have value : character.val.toNat ≠ 10 := fun same =>
    other (Char.ext (UInt32.toNat_inj.mp same))
  intro mem
  -- A character of one byte has its number there; all bytes of the others are 128 or more.
  unfold String.utf8EncodeChar at mem
  dsimp only at mem
  split at mem
  · exact ofNat_ne_lineFeed value (by omega) (List.mem_singleton.mp mem)
  split at mem
  · simp only [List.mem_cons, List.not_mem_nil, or_false] at mem
    rcases mem with same | same
    all_goals exact ofNat_ne_lineFeed (by omega) (by omega) same
  split at mem
  · simp only [List.mem_cons, List.not_mem_nil, or_false] at mem
    rcases mem with same | same | same
    all_goals exact ofNat_ne_lineFeed (by omega) (by omega) same
  · simp only [List.mem_cons, List.not_mem_nil, or_false] at mem
    rcases mem with same | same | same | same
    all_goals exact ofNat_ne_lineFeed (by omega) (by omega) same

theorem notMem_bytesOf {text : String} (plain : '\n' ∉ text.toList) : 10 ∉ bytesOf text := by
  rw [bytesOf_eq_flatMap, List.mem_flatMap]
  rintro ⟨character, mem, byte⟩
  refine notMem_utf8EncodeChar ?_ byte
  rintro rfl
  exact plain mem

/-! ## Lines -/

/-- The line ends with a line feed, and that is the only one in it. -/
def IsLine (line : String) : Prop :=
  ∃ body : String, line = body ++ "\n" ∧ '\n' ∉ body.toList

/-- The first line ends at the first line feed. -/
theorem takeLine_append {body : List UInt8} (plain : 10 ∉ body) (rest : List UInt8) :
    takeLine (body ++ 10 :: rest) = (body ++ [10], rest) := by
  induction body with
  | nil => rfl
  | cons byte body ih =>
      rw [List.mem_cons, not_or] at plain
      rw [List.cons_append, takeLine, if_neg (Ne.symm plain.1), ih plain.2]
      rfl

/-- The bytes of a line are the first line of all bytes that begin with them. -/
theorem takeLine_bytesOf {line : String} (isLine : IsLine line) (rest : List UInt8) :
    takeLine (bytesOf line ++ rest) = (bytesOf line, rest) := by
  obtain ⟨body, rfl, plain⟩ := isLine
  rw [bytesOf_append, bytesOf_lineFeed, List.append_assoc]
  exact takeLine_append (notMem_bytesOf plain) rest

theorem bytesOf_ne_nil {line : String} (isLine : IsLine line) : bytesOf line ≠ [] := by
  obtain ⟨body, rfl, -⟩ := isLine
  rw [bytesOf_append, bytesOf_lineFeed]
  exact List.append_ne_nil_of_right_ne_nil _ (List.cons_ne_nil 10 [])

/-- Characters and a line feed after them are lines, of which there is at least one. -/
theorem exists_lines_of_characters (characters : List Char) :
    ∃ (first : List Char) (others : List (List Char)),
      characters ++ ['\n'] = (first :: others).flatMap (· ++ ['\n']) ∧
        ∀ body ∈ first :: others, '\n' ∉ body := by
  induction characters with
  | nil => exact ⟨[], [], rfl, by simp⟩
  | cons character characters ih =>
      obtain ⟨first, others, whole, plain⟩ := ih
      rw [List.cons_append, whole]
      by_cases ends : character = '\n'
      · subst ends
        exact ⟨[], first :: others, rfl, List.forall_mem_cons.mpr ⟨List.not_mem_nil, plain⟩⟩
      · rw [List.forall_mem_cons] at plain
        refine ⟨character :: first, others, rfl, List.forall_mem_cons.mpr ⟨?_, plain.2⟩⟩
        exact List.not_mem_cons_of_ne_of_not_mem (Ne.symm ends) plain.1

/-- **A text that is empty or ends with a line feed is its lines.** -/
theorem exists_lines {text : String} (whole : text = "" ∨ ∃ body, text = body ++ "\n") :
    ∃ lines : List String, bytesOf text = lines.flatMap bytesOf ∧ ∀ line ∈ lines, IsLine line := by
  rcases whole with rfl | ⟨body, rfl⟩
  · exact ⟨[], rfl, by simp⟩
  · obtain ⟨first, others, whole, plain⟩ := exists_lines_of_characters body.toList
    refine ⟨(first :: others).map fun body => String.ofList body ++ "\n", ?_, ?_⟩
    · have characters : (body ++ "\n").toList =
          (first :: others).flatMap (· ++ ['\n']) := by
        rw [String.toList_append]
        exact whole
      rw [bytesOf_eq_flatMap, characters, List.flatMap_assoc, List.flatMap_map]
      refine congrArg (List.flatMap · _) (funext fun line => ?_)
      rw [bytesOf_eq_flatMap, String.toList_append, String.toList_ofList]
      rfl
    · intro line mem
      obtain ⟨body, inside, rfl⟩ := List.mem_map.mp mem
      exact ⟨String.ofList body, rfl, by rw [String.toList_ofList]; exact plain body inside⟩

end MonkeyLang
