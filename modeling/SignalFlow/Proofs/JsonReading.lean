import SignalFlow.Json.Reader
import SignalFlow.Proofs.Completion
import SignalFlow.Proofs.Config.Layering

/-! # What comes of JSON texts

A mapping that is read from a text keeps one value for each key, the last one, so that its keys are
distinct, and so are those of the mappings in it (`Json.hasDistinctKeys_of_parse`). What has been
read of a mapping that is still open may have a key twice; so the invariant of the reader is about
the values in it only (`Json.Open.HasDistinctKeys`). A text from which no value is read is
malformed, or has a number that is too long, or is nested too deep (`Json.of_parse_eq_error`). What
is too deep is a matter of how many lists and mappings a text opens (`Json.parse_eq_tooDeep`,
`Json.parse_ne_tooDeep`).
-/

namespace SignalFlow

namespace Json

/-- In what has been read of an open mapping each value has distinct keys. -/
def Open.HasDistinctKeys : Open → Prop
  | .list _ => True
  | .mapping read _ => Entries.All Value.HasDistinctKeys read

variable {value : Value}

theorem hasDistinctKeys_empty : Value.HasDistinctKeys (.mapping []) :=
  .mapping List.nodup_nil fun _ member => absurd member List.not_mem_nil

theorem hasDistinctKeys_list (items : List Value) : Value.HasDistinctKeys (.list items) :=
  .leaf (by rintro ⟨_, ⟨⟩⟩)

/-- A mapping that is closed keeps one value for each key. -/
theorem hasDistinctKeys_push {container : Open} (opened : container.HasDistinctKeys)
    (distinct : value.HasDistinctKeys) : (container.push value).HasDistinctKeys := by
  cases container with
  | list read => exact hasDistinctKeys_list _
  | mapping read key =>
      refine .mapping (Entries.nodup_keys_ofPairs _) (Entries.All.ofPairs fun pair member => ?_)
      rcases List.mem_cons.mp (List.mem_reverse.mp member) with rfl | earlier
      · exact distinct
      · exact opened pair earlier

/-- What a part of the reader may end with. -/
def IsExpected : Except Fault (Value × List Char) → Prop
  | .ok (value, _) => value.HasDistinctKeys
  | .error fault => fault = .malformed ∨ fault = .undefined ∨ fault = .tooDeep

theorem isExpected_malformed : IsExpected (.error .malformed) := .inl rfl

theorem isExpected_number (text : List Char) : IsExpected (number text) := by
  have float (x : Float) (rest : List Char) : IsExpected (.ok (.float x, rest)) :=
    .leaf (by rintro ⟨_, ⟨⟩⟩)
  have int (n : Int) (rest : List Char) : IsExpected (.ok (.int n, rest)) :=
    .leaf (by rintro ⟨_, ⟨⟩⟩)
  have long : IsExpected (.error .undefined) := .inr (.inl rfl)
  unfold number
  repeat' split
  all_goals first
    | exact isExpected_malformed
    | exact long
    | exact float _ _
    | exact int _ _

theorem isExpected_plain (text : List Char) : IsExpected (plain text) := by
  unfold plain
  split
  · next value rest found =>
      obtain ⟨⟨word, named⟩, member, after⟩ := List.exists_of_findSome?_eq_some found
      obtain ⟨_, -, same⟩ := Option.map_eq_some_iff.mp after
      cases same
      refine .leaf ?_
      rintro ⟨entries, rfl⟩
      simp [constants] at member
  · exact isExpected_number text

mutual

/-- What is read inside open lists and mappings has distinct keys. -/
theorem isExpected_readValue (depth : Nat) : ∀ (fuel : Nat) {stack : List Open} {text : List Char},
    (∀ container ∈ stack, container.HasDistinctKeys) → IsExpected (readValue depth fuel stack text)
  | 0, _, _, _ => isExpected_malformed
  | fuel + 1, stack, text, opened => by
      have openList : ∀ container ∈ Open.list [] :: stack, container.HasDistinctKeys :=
        List.forall_mem_cons.mpr ⟨trivial, opened⟩
      unfold readValue
      split
      · split
        · exact .inr (.inr rfl)
        · split
          · exact isExpected_close depth fuel opened (hasDistinctKeys_list _)
          · exact isExpected_readValue depth fuel openList
      · split
        · exact .inr (.inr rfl)
        · split
          · exact isExpected_close depth fuel opened hasDistinctKeys_empty
          · split
            · refine isExpected_readValue depth fuel (List.forall_mem_cons.mpr ⟨?_, opened⟩)
              exact fun entry member => absurd member List.not_mem_nil
            · exact isExpected_malformed
      · split
        · exact isExpected_close depth fuel opened (.leaf (by rintro ⟨_, ⟨⟩⟩))
        · exact isExpected_malformed
      · have expected := isExpected_plain text
        split
        · next read =>
            rw [read] at expected
            exact isExpected_close depth fuel opened expected
        · next fails =>
            rw [fails] at expected
            exact expected

/-- A finished value that is put into open lists and mappings completes them with distinct keys. -/
theorem isExpected_close (depth : Nat) : ∀ (fuel : Nat) {stack : List Open} {found : Value}
    {text : List Char}, (∀ container ∈ stack, container.HasDistinctKeys) →
      found.HasDistinctKeys → IsExpected (close depth fuel stack found text)
  | 0, _, _, _, _, _ => isExpected_malformed
  | _ + 1, [], _, _, _, distinct => distinct
  | fuel + 1, .list read :: stack, found, text, opened, distinct => by
      obtain ⟨innermost, others⟩ := List.forall_mem_cons.mp opened
      unfold close
      split
      · exact isExpected_readValue depth fuel (List.forall_mem_cons.mpr ⟨trivial, others⟩)
      · exact isExpected_close depth fuel others (hasDistinctKeys_push innermost distinct)
      · exact isExpected_malformed
  | fuel + 1, .mapping read key :: stack, found, text, opened, distinct => by
      obtain ⟨innermost, others⟩ := List.forall_mem_cons.mp opened
      unfold close
      split
      · split
        · refine isExpected_readValue depth fuel (List.forall_mem_cons.mpr ⟨?_, others⟩)
          exact List.forall_mem_cons.mpr ⟨distinct, innermost⟩
        · exact isExpected_malformed
      · exact isExpected_close depth fuel others (hasDistinctKeys_push innermost distinct)
      · exact isExpected_malformed

end

section Parse

variable [Host] {source : String} {fault : Fault}

theorem isExpected_readText (characters : List Char) (fuel : Nat) :
    IsExpected (readValue Host.jsonDepth fuel [] characters) :=
  isExpected_readValue _ fuel fun _ member => absurd member List.not_mem_nil

/-- **In a mapping that was read each key stands once.** -/
theorem hasDistinctKeys_of_parse (read : parse source = .ok value) : value.HasDistinctKeys := by
  obtain ⟨⟨found, rest⟩, begins, ends⟩ := bind_eq_ok_iff.mp read
  have expected := isExpected_readText (skip source.toList) (2 * source.toList.length + 2)
  rw [begins] at expected
  dsimp only at ends
  split at ends
  · cases ends
    exact expected
  · cases ends

/-- A text of which no value comes is malformed, has a long number or is nested too deep. -/
theorem of_parse_eq_error (fails : parse source = .error fault) :
    fault = .malformed ∨ fault = .undefined ∨ fault = .tooDeep := by
  have expected := isExpected_readText (skip source.toList) (2 * source.toList.length + 2)
  unfold parse at fails
  dsimp only at fails
  cases begins : readValue Host.jsonDepth (2 * source.toList.length + 2) []
    (skip source.toList) with
  | error found =>
      rw [begins] at fails expected
      cases fails
      exact expected
  | ok found =>
      rw [begins] at fails
      dsimp only [bind, Except.bind] at fails
      split at fails
      · cases fails
      · cases fails
        exact isExpected_malformed

end Parse

/-! ## Nesting -/

/-- Whether a character opens a list or a mapping. -/
def isOpening (c : Char) : Bool := c == '[' || c == '\x7b'

/-- How many characters of a text open a list or a mapping. -/
def openings (text : List Char) : Nat := text.countP isOpening

section Suffixes

variable {text rest word : List Char}

theorem openings_le_of_suffix (suffix : rest <:+ text) : openings rest ≤ openings text :=
  suffix.sublist.countP_le

theorem skip_suffix (text : List Char) : skip text <:+ text := List.dropWhile_suffix _

theorem suffix_of_after? (follows : after? word text = some rest) : rest <:+ text := by
  induction word generalizing text with
  | nil =>
      cases follows
      exact List.suffix_rfl
  | cons c word ih =>
      cases text with
      | nil => cases follows
      | cons d text =>
          rw [after?] at follows
          split at follows
          · exact (ih follows).trans (List.suffix_cons d text)
          · cases follows

theorem suffix_of_fourHex? {n : Nat} (read : fourHex? text = some (n, rest)) : rest <:+ text := by
  unfold fourHex? at read
  split at read
  · next a b c d more =>
      split at read
      · cases read
        exact List.suffix_append [a, b, c, d] _
      · cases read
  · cases read

theorem unitCharacter_suffix (unit : Nat) (text : List Char) :
    (unitCharacter unit text).2 <:+ text := by
  unfold unitCharacter
  repeat' split
  any_goals exact List.suffix_rfl
  next more _ low left read _ =>
    exact (suffix_of_fourHex? read).trans (List.suffix_append ['\\', 'u'] more)

theorem suffix_of_readText {fuel : Nat} {read : List Char} {found : String}
    (reads : readText fuel read text = some (found, rest)) : rest <:+ text := by
  fun_induction readText fuel read text with
  | case1 | case2 => cases reads
  | case3 =>
      cases reads
      exact List.suffix_cons _ _
  | case4 => cases reads
  | case5 fuel read text unit more hex c left same ih =>
      have unitSuffix := unitCharacter_suffix unit more
      rw [same] at unitSuffix
      exact (ih reads).trans (unitSuffix.trans
        ((suffix_of_fourHex? hex).trans (List.suffix_append ['\\', 'u'] _)))
  | case6 fuel read c text _ _ _ ih => exact (ih reads).trans (List.suffix_append ['\\', c] _)
  | case7 => cases reads
  | case8 => cases reads
  | case9 fuel read c text _ _ _ _ ih => exact (ih reads).trans (List.suffix_cons c text)

theorem digits_suffix (text : List Char) : (digits text).2 <:+ text := List.dropWhile_suffix _

theorem suffix_of_exponent {e : Int} (read : exponent text = some (e, rest)) : rest <:+ text := by
  unfold exponent at read
  split at read
  · next c more =>
      split at read
      · have signSuffix : (Number.signOf more).2 <:+ more := by
          unfold Number.signOf
          split
          all_goals first | exact List.suffix_cons _ _ | exact List.suffix_rfl
        have digitsSuffix := digits_suffix (Number.signOf more).2
        dsimp only at read
        split at read
        · cases read
        · next found =>
            rw [found] at digitsSuffix
            cases read
            exact digitsSuffix.trans (signSuffix.trans (List.suffix_cons c more))
      · cases read
  · cases read

theorem suffix_of_sign {negative : Bool} (signed : (match text with
      | '-' :: rest => (true, rest)
      | _ => (false, text)) = (negative, rest)) : rest <:+ text := by
  split at signed <;> cases signed
  · exact List.suffix_cons _ _
  · exact List.suffix_rfl

theorem suffix_of_whole {whole : List Char} (counted : (match text with
      | '0' :: more => (['0'], more)
      | _ => digits text) = (whole, rest)) : rest <:+ text := by
  split at counted
  · cases counted
    exact List.suffix_cons _ _
  · obtain rfl : (digits text).2 = rest := congrArg Prod.snd counted
    exact digits_suffix text

theorem fraction_suffix (text : List Char) : (match text with
      | '.' :: more =>
          match digits more with
          | ([], _) => ([], text)
          | found => found
      | _ => ([], text) : List Char × List Char).2 <:+ text := by
  split
  · next more =>
      split
      · exact List.suffix_rfl
      · exact (digits_suffix more).trans (List.suffix_cons '.' more)
  · exact List.suffix_rfl

theorem suffix_of_number {value : Value} (read : number text = .ok (value, rest)) :
    rest <:+ text := by
  unfold number at read
  split at read
  next negative unsigned signed =>
  split at read
  next whole left counted =>
  dsimp only at read
  split at read
  · cases read
  have suffix := (fraction_suffix left).trans
    ((suffix_of_whole counted).trans (suffix_of_sign signed))
  split at read
  · next found =>
      cases read
      exact (suffix_of_exponent found).trans suffix
  · split at read <;> cases read
    exact suffix
  · cases read
    exact suffix

theorem suffix_of_plain {value : Value} (read : plain text = .ok (value, rest)) :
    rest <:+ text := by
  unfold plain at read
  split at read
  · next found named =>
      cases read
      obtain ⟨_, -, after⟩ := List.exists_of_findSome?_eq_some named
      obtain ⟨_, follows, same⟩ := Option.map_eq_some_iff.mp after
      cases same
      exact suffix_of_after? follows
  · exact suffix_of_number read

theorem suffix_of_key? {key : String} (read : key? text = some (key, rest)) : rest <:+ text := by
  unfold key? at read
  split at read
  · next more =>
      split at read
      · next found after reads =>
          split at read
          · next behind colon =>
              cases read
              have colonSuffix : ':' :: behind <:+ after := colon ▸ skip_suffix after
              exact (skip_suffix behind).trans ((List.suffix_cons ':' behind).trans
                (colonSuffix.trans ((suffix_of_readText reads).trans (List.suffix_cons '"' more))))
          · cases read
      · cases read
  · cases read

end Suffixes

section Depth

variable {text more : List Char} {c : Char} {fault : Fault}

theorem openings_cons (opens : isOpening c = true) (text : List Char) :
    openings (c :: text) = openings text + 1 := List.countP_cons_of_pos opens

theorem openings_skip_le (text : List Char) : openings (skip text) ≤ openings text :=
  openings_le_of_suffix (skip_suffix text)

theorem openings_le_of_skip (skipped : skip text = c :: more) : openings more ≤ openings text :=
  openings_le_of_suffix ((List.suffix_cons c more).trans (skipped ▸ skip_suffix text))

theorem openings_le_of_key? {key : String} (read : key? text = some (key, more)) :
    openings more ≤ openings text := openings_le_of_suffix (suffix_of_key? read)

theorem number_ne_tooDeep (text : List Char) : number text ≠ .error .tooDeep := by
  unfold number
  repeat' split
  all_goals exact nofun

theorem plain_ne_tooDeep (text : List Char) : plain text ≠ .error .tooDeep := by
  unfold plain
  split
  · exact nofun
  · exact number_ne_tooDeep text

variable (depth : Nat)

mutual

/-- Nothing is nested too deep where no more lists and mappings are opened than may be open. -/
theorem readValue_ne_tooDeep : (fuel : Nat) → {stack : List Open} → {text : List Char} →
    stack.length + openings text ≤ depth → readValue depth fuel stack text ≠ .error .tooDeep
  | 0, _, _, _ => nofun
  | fuel + 1, stack, text, few => by
      unfold readValue
      split
      · next rest =>
          rw [openings_cons rfl] at few
          have skipped := openings_skip_le rest
          rw [if_neg (by omega)]
          split
          · next closed =>
              have behind := openings_le_of_skip closed
              exact close_ne_tooDeep fuel (by omega)
          · exact readValue_ne_tooDeep fuel (by rw [List.length_cons]; omega)
      · next rest =>
          rw [openings_cons rfl] at few
          have skipped := openings_skip_le rest
          rw [if_neg (by omega)]
          split
          · next closed =>
              have behind := openings_le_of_skip closed
              exact close_ne_tooDeep fuel (by omega)
          · split
            · next read =>
                have behind := openings_le_of_key? read
                exact readValue_ne_tooDeep fuel (by rw [List.length_cons]; omega)
            · exact nofun
      · next rest =>
          split
          · next read =>
              have behind := openings_le_of_suffix
                ((suffix_of_readText read).trans (List.suffix_cons '"' rest))
              exact close_ne_tooDeep fuel (by omega)
          · exact nofun
      · have shallow := plain_ne_tooDeep text
        split
        · next read =>
            have behind := openings_le_of_suffix (suffix_of_plain read)
            exact close_ne_tooDeep fuel (by omega)
        · next fails =>
            rwa [fails] at shallow

theorem close_ne_tooDeep : (fuel : Nat) → {stack : List Open} → {value : Value} →
    {text : List Char} → stack.length + openings text ≤ depth →
      close depth fuel stack value text ≠ .error .tooDeep
  | 0, _, _, _, _ => nofun
  | _ + 1, [], _, _, _ => nofun
  | fuel + 1, .list read :: stack, value, text, few => by
      rw [List.length_cons] at few
      unfold close
      split
      · next rest comma =>
          have behind := openings_le_of_skip comma
          have skipped := openings_skip_le rest
          exact readValue_ne_tooDeep fuel (by rw [List.length_cons]; omega)
      · next closed =>
          have behind := openings_le_of_skip closed
          exact close_ne_tooDeep fuel (by omega)
      · exact nofun
  | fuel + 1, .mapping read key :: stack, value, text, few => by
      rw [List.length_cons] at few
      unfold close
      split
      · next rest comma =>
          have behind := openings_le_of_skip comma
          have skipped := openings_skip_le rest
          split
          · next found =>
              have left := openings_le_of_key? found
              exact readValue_ne_tooDeep fuel (by rw [List.length_cons]; omega)
          · exact nofun
      · next closed =>
          have behind := openings_le_of_skip closed
          exact close_ne_tooDeep fuel (by omega)
      · exact nofun

end

theorem readValue_replicate_eq_tooDeep (rest : List Char) : (more fuel : Nat) → more < fuel →
    (stack : List Open) → depth ≤ stack.length + more →
      readValue depth fuel stack (List.replicate (more + 1) '[' ++ rest) = .error .tooDeep
  | 0, fuel + 1, _, stack, deep => by
      rw [List.replicate_one, List.singleton_append, readValue]
      exact if_pos deep
  | more + 1, fuel + 1, enough, stack, deep => by
      rw [List.replicate_succ, List.cons_append, readValue]
      split
      · rfl
      · exact readValue_replicate_eq_tooDeep rest more fuel (by omega) (.list [] :: stack)
          (by rw [List.length_cons]; omega)

variable [Host]

/-- **A text in which no more lists and mappings are opened than may be open is not nested too
deep.** -/
theorem parse_ne_tooDeep {text : String} (few : openings text.toList ≤ Host.jsonDepth) :
    parse text ≠ .error .tooDeep := by
  have skipped := openings_skip_le text.toList
  have shallow := readValue_ne_tooDeep Host.jsonDepth (2 * text.toList.length + 2)
    (show ([] : List Open).length + openings (skip text.toList) ≤ _ by simpa using by omega)
  unfold parse
  dsimp only
  cases begins : readValue Host.jsonDepth (2 * text.toList.length + 2) []
      (skip text.toList) with
  | error fault =>
      rw [begins] at shallow
      intro same
      cases same
      exact shallow rfl
  | ok found =>
      dsimp only [bind, Except.bind]
      split <;> exact nofun

/-- **A text that opens one list more than may be open is nested too deep**, whatever follows. -/
theorem parse_eq_tooDeep (rest : List Char) :
    parse (String.ofList (List.replicate (Host.jsonDepth + 1) '[' ++ rest)) =
      .error .tooDeep := by
  unfold parse
  rw [String.toList_ofList]
  have begins : skip (List.replicate (Host.jsonDepth + 1) '[' ++ rest) =
      List.replicate (Host.jsonDepth + 1) '[' ++ rest := rfl
  dsimp only
  rw [begins, readValue_replicate_eq_tooDeep Host.jsonDepth rest Host.jsonDepth _ (by simp; omega)
    [] (by simp)]
  rfl

end Depth

end Json

end SignalFlow
