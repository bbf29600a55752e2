import ODataClient.Text.Span

/-!
# Occurrences in encoded texts

A run of bytes covers a needle if it lies within the text, has its ends between characters, and
holds the bytes of the needle. What a text holds from a byte on can be taken wherever a character
begins or the text ends, and a search there finds the first run that covers the needle, if there is
any.
-/

namespace ODataClient.Text

section Characters

variable {needle text before after rest : List Char} {offset : Nat}

theorem foldl_utf8Size (characters : List Char) (length : Nat) :
    characters.foldl (fun length c => length + c.utf8Size) length =
      length + byteLength characters := by
  induction characters generalizing length with
  | nil => rfl
  | cons c rest ih =>
      rw [byteLength, List.foldl_cons, List.foldl_cons, ih, ih (0 + c.utf8Size)]
      omega

theorem byteLength_cons (c : Char) (rest : List Char) :
    byteLength (c :: rest) = c.utf8Size + byteLength rest := by
  rw [byteLength, List.foldl_cons, foldl_utf8Size, Nat.zero_add]

theorem byteLength_append (first second : List Char) :
    byteLength (first ++ second) = byteLength first + byteLength second := by
  rw [byteLength, List.foldl_append, foldl_utf8Size]
  rfl

theorem byteLength_eq (characters : List Char) :
    byteLength characters = (String.ofList characters).utf8ByteSize := by
  induction characters with
  | nil => rfl
  | cons c rest ih =>
      rw [byteLength_cons, ih, String.ofList_cons, String.utf8ByteSize_append,
        String.utf8ByteSize_singleton]

theorem eq_nil_of_byteLength (empty : byteLength text = 0) : text = [] := by
  cases text with
  | nil => rfl
  | cons c rest =>
      have positive := c.utf8Size_pos
      rw [byteLength_cons] at empty
      omega

theorem split_of_cutAt? (found : cutAt? needle text = some (before, after)) :
    text = before ++ needle ++ after := by
  induction text generalizing before with
  | nil =>
      rw [cutAt?] at found
      split at found
      · next empty =>
        cases found
        simp [empty]
      · contradiction
  | cons c rest ih =>
      rw [cutAt?] at found
      split at found
      · next begins =>
        cases found
        exact (List.prefix_iff_eq_append.1 (List.isPrefixOf_iff_prefix.1 begins)).symm
      · obtain ⟨⟨others, _⟩, deeper, same⟩ := Option.map_eq_some_iff.1 found
        cases same
        exact congrArg (c :: ·) (ih deeper)

/-- Whatever stands before another occurrence of the needle takes no fewer bytes. -/
theorem byteLength_le_of_cutAt? {other last : List Char}
    (found : cutAt? needle text = some (before, after)) (occurs : text = other ++ needle ++ last) :
    byteLength before ≤ byteLength other := by
  induction text generalizing before other with
  | nil =>
      rw [cutAt?] at found
      split at found
      · cases found
        exact Nat.zero_le _
      · contradiction
  | cons c rest ih =>
      rw [cutAt?] at found
      split at found
      · cases found
        exact Nat.zero_le _
      · next elsewhere =>
        obtain ⟨⟨others, _⟩, deeper, same⟩ := Option.map_eq_some_iff.1 found
        cases same
        cases other with
        | nil =>
            rw [occurs] at elsewhere
            exact absurd (List.isPrefixOf_iff_prefix.2 (List.prefix_append _ _)) elsewhere
        | cons d other =>
            obtain ⟨same, occurs⟩ := List.cons.inj occurs
            rw [← same, byteLength_cons, byteLength_cons]
            exact Nat.add_le_add_left (ih deeper occurs) _

theorem ne_of_cutAt?_eq_none (missing : cutAt? needle text = none) (other last : List Char) :
    text ≠ other ++ needle ++ last := by
  induction text generalizing other with
  | nil =>
      intro occurs
      rw [cutAt?] at missing
      split at missing
      · contradiction
      · next present => exact present (by simp_all)
  | cons c rest ih =>
      intro occurs
      rw [cutAt?] at missing
      split at missing
      · contradiction
      · next elsewhere =>
        cases other with
        | nil =>
            rw [occurs] at elsewhere
            exact elsewhere (List.isPrefixOf_iff_prefix.2 (List.prefix_append _ _))
        | cons d other =>
            exact ih (Option.map_eq_none_iff.1 missing) other (List.cons.inj occurs).2

theorem dropBytes?_append (before rest : List Char) :
    dropBytes? (byteLength before) (before ++ rest) = some rest := by
  induction before with
  | nil => cases rest <;> rfl
  | cons c before ih =>
      obtain ⟨size, more⟩ := Nat.exists_eq_add_of_lt c.utf8Size_pos
      have next : byteLength (c :: before) = (size + byteLength before) + 1 := by
        rw [byteLength_cons]
        omega
      have fits : c.utf8Size ≤ (size + byteLength before) + 1 := by omega
      have left : (size + byteLength before) + 1 - c.utf8Size = byteLength before := by omega
      rw [next, List.cons_append, dropBytes?, if_pos fits, left, ih]

theorem dropBytes?_eq_some_iff : dropBytes? offset text = some rest ↔
    ∃ before, text = before ++ rest ∧ byteLength before = offset := by
  constructor
  · intro dropped
    fun_induction dropBytes? offset text with
    | case1 text =>
        cases dropped
        exact ⟨[], rfl, rfl⟩
    | case2 => contradiction
    | case3 offset c others fits ih =>
        obtain ⟨before, rfl, length⟩ := ih dropped
        refine ⟨c :: before, rfl, ?_⟩
        rw [byteLength_cons]
        omega
    | case4 => contradiction
  · rintro ⟨before, rfl, rfl⟩
    exact dropBytes?_append before rest

theorem spanFrom?_of_dropBytes? (dropped : dropBytes? offset text = some rest) :
    spanFrom? offset needle text = (cutAt? needle rest).map fun (between, _) =>
      { offset := offset + byteLength between, length := byteLength needle } := by
  rw [spanFrom?, dropped, Option.bind_eq_bind, Option.bind_some, firstSpan?]
  cases cutAt? needle rest <;> rfl

theorem firstSpan?_eq (needle text : List Char) :
    firstSpan? needle text = spanFrom? 0 needle text := by
  have whole : dropBytes? 0 text = some text := by cases text <;> rfl
  simp only [spanFrom?_of_dropBytes? whole, firstSpan?, Nat.zero_add]

end Characters

/-- Whether a run of bytes covers a needle in a text. -/
structure Span.Covers (span : Span) (needle text : String) : Prop where
  within : span.stop ≤ text.utf8ByteSize
  start : String.Pos.Raw.IsValid text ⟨span.offset⟩
  stop : String.Pos.Raw.IsValid text ⟨span.stop⟩
  bytes : text.toByteArray.extract span.offset span.stop = needle.toByteArray

/-- Whether a run is the first from a byte on that covers a needle. -/
structure Span.IsFirstFrom (offset : Nat) (span : Span) (needle text : String) : Prop where
  covers : span.Covers needle text
  behind : offset ≤ span.offset
  least : ∀ other : Span, other.Covers needle text → offset ≤ other.offset →
    span.offset ≤ other.offset

variable {span : Span} {needle text : String} {offset : Nat}

theorem Span.covers_iff : span.Covers needle text ↔ ∃ before after : String,
    text = before ++ needle ++ after ∧ span = ⟨before.utf8ByteSize, needle.utf8ByteSize⟩ := by
  constructor
  · rintro ⟨-, start, stop, bytes⟩
    obtain ⟨before, rest, split, begins⟩ := String.Pos.Raw.isValid_iff_exists_append.1 start
    obtain ⟨upTo, after, splitToo, ends⟩ := String.Pos.Raw.isValid_iff_exists_append.1 stop
    have offset : span.offset = before.toByteArray.size := congrArg String.Pos.Raw.byteIdx begins
    have last : span.stop = upTo.toByteArray.size := congrArg String.Pos.Raw.byteIdx ends
    -- The bytes up to the end of the run are those before the run and then those in it.
    have together : upTo.toByteArray = before.toByteArray ++ needle.toByteArray := by
      have first : text.toByteArray.extract 0 span.offset = before.toByteArray := by
        rw [split, String.toByteArray_append]
        exact ByteArray.extract_append_eq_left offset
      have both : text.toByteArray.extract 0 span.stop = upTo.toByteArray := by
        rw [splitToo, String.toByteArray_append]
        exact ByteArray.extract_append_eq_left last
      rw [← both, ← first, ← bytes]
      exact ByteArray.extract_eq_extract_append_extract span.offset (Nat.zero_le _)
        (Nat.le_add_right _ _)
    obtain rfl : upTo = before ++ needle := by
      rw [← String.toByteArray_inj, together, String.toByteArray_append]
    refine ⟨before, after, splitToo, ?_⟩
    rw [String.toByteArray_append, ByteArray.size_append, String.size_toByteArray,
      String.size_toByteArray, Span.stop] at last
    rw [String.size_toByteArray] at offset
    obtain ⟨_, length⟩ := span
    obtain rfl : length = needle.utf8ByteSize := by simp only at last offset; omega
    rw [← offset]
  · rintro ⟨before, after, rfl, rfl⟩
    constructor
    · simp [Span.stop, String.utf8ByteSize_append]
    · rw [String.Pos.Raw.isValid_iff_exists_append]
      exact ⟨before, needle ++ after, String.append_assoc, rfl⟩
    · rw [String.Pos.Raw.isValid_iff_exists_append]
      exact ⟨before ++ needle, after, rfl, by simp [Span.stop, String.Pos.Raw.ext_iff]⟩
    · have begins : (needle ++ after).toByteArray.extract 0 needle.utf8ByteSize =
          needle.toByteArray := by
        rw [String.toByteArray_append]
        exact ByteArray.extract_append_eq_left String.size_toByteArray.symm
      rw [String.append_assoc, String.toByteArray_append, ← begins]
      exact ByteArray.extract_append_size_add (i := 0)

theorem Span.covers_of_split {before after : List Char}
    (split : text.toList = before ++ needle.toList ++ after) :
    Covers ⟨byteLength before, byteLength needle.toList⟩ needle text := by
  rw [Span.covers_iff]
  refine ⟨String.ofList before, String.ofList after, ?_, ?_⟩
  · rw [← String.toList_inj, split]
    simp
  · rw [byteLength_eq, byteLength_eq, String.ofList_toList]

theorem Span.Covers.exists_split (covers : span.Covers needle text) :
    ∃ before after, text.toList = before ++ needle.toList ++ after ∧
      span.offset = byteLength before := by
  obtain ⟨before, after, rfl, rfl⟩ := Span.covers_iff.1 covers
  refine ⟨before.toList, after.toList, ?_, ?_⟩
  · simp
  · rw [byteLength_eq, String.ofList_toList]

theorem Span.Covers.length_eq (covers : span.Covers needle text) :
    span.length = needle.utf8ByteSize := by
  obtain ⟨before, after, -, rfl⟩ := Span.covers_iff.1 covers
  rfl

theorem Span.IsFirstFrom.eq {other : Span} (first : span.IsFirstFrom offset needle text)
    (firstToo : other.IsFirstFrom offset needle text) : span = other := by
  have length : span.length = other.length :=
    first.covers.length_eq.trans firstToo.covers.length_eq.symm
  have least := first.least other firstToo.covers firstToo.behind
  have leastToo := firstToo.least span first.covers first.behind
  cases span
  cases other
  simp only at length least leastToo
  rw [length, Nat.le_antisymm least leastToo]

/-- What a text holds from a byte on can be taken just where a character begins or the text ends. -/
theorem isSome_dropBytes?_iff :
    (dropBytes? offset text.toList).isSome ↔ String.Pos.Raw.IsValid text ⟨offset⟩ := by
  rw [Option.isSome_iff_exists, String.Pos.Raw.isValid_iff_exists_append]
  simp only [dropBytes?_eq_some_iff]
  constructor
  · rintro ⟨rest, before, split, rfl⟩
    refine ⟨String.ofList before, String.ofList rest, ?_, ?_⟩
    · rw [← String.toList_inj, split]
      simp
    · rw [byteLength_eq]
      rfl
  · rintro ⟨before, rest, rfl, begins⟩
    refine ⟨rest.toList, before.toList, String.toList_append, ?_⟩
    rw [byteLength_eq, String.ofList_toList]
    exact (congrArg String.Pos.Raw.byteIdx begins).symm

/-- What is left of a text from a byte on begins before every occurrence that begins no earlier. -/
theorem split_of_dropBytes? {rest first last : List Char}
    (dropped : dropBytes? offset text.toList = some rest)
    (split : text.toList = first ++ needle.toList ++ last) (behind : offset ≤ byteLength first) :
    ∃ between, rest = between ++ needle.toList ++ last ∧
      byteLength first = offset + byteLength between := by
  obtain ⟨before, whole, rfl⟩ := dropBytes?_eq_some_iff.1 dropped
  rw [whole, List.append_assoc, List.append_eq_append_iff] at split
  rcases split with ⟨between, rfl, rfl⟩ | ⟨between, rfl, left⟩
  · exact ⟨between, (List.append_assoc _ _ _).symm, byteLength_append _ _⟩
  · rw [byteLength_append] at behind
    obtain rfl : between = [] := eq_nil_of_byteLength (by omega)
    refine ⟨[], ?_, ?_⟩
    · simpa using left.symm
    · rw [List.append_nil]
      rfl

theorem isFirstFrom_of_spanFrom?
    (found : spanFrom? offset needle.toList text.toList = some span) :
    span.IsFirstFrom offset needle text := by
  obtain ⟨rest, dropped, -⟩ := Option.bind_eq_some_iff.1 found
  rw [spanFrom?_of_dropBytes? dropped] at found
  obtain ⟨⟨between, after⟩, cut, rfl⟩ := Option.map_eq_some_iff.1 found
  obtain ⟨before, split, length⟩ := dropBytes?_eq_some_iff.1 dropped
  constructor
  · have whole : text.toList = (before ++ between) ++ needle.toList ++ after := by
      rw [split, split_of_cutAt? cut]
      simp
    have covers := Span.covers_of_split whole
    rwa [byteLength_append, length] at covers
  · exact Nat.le_add_right _ _
  · intro other covers behind
    obtain ⟨first, last, occurs, begins⟩ := covers.exists_split
    rw [begins] at behind ⊢
    obtain ⟨gap, splitToo, lengthToo⟩ := split_of_dropBytes? dropped occurs behind
    have shortest := byteLength_le_of_cutAt? cut splitToo
    rw [lengthToo]
    exact Nat.add_le_add_left shortest offset

/-- A search that finds nothing has been refused, or there is nothing to be found. -/
theorem not_covers_of_spanFrom?_eq_none (begins : String.Pos.Raw.IsValid text ⟨offset⟩)
    (missing : spanFrom? offset needle.toList text.toList = none) (behind : offset ≤ span.offset) :
    ¬ span.Covers needle text := by
  intro covers
  obtain ⟨rest, dropped⟩ := Option.isSome_iff_exists.1 (isSome_dropBytes?_iff.2 begins)
  obtain ⟨first, last, occurs, length⟩ := covers.exists_split
  rw [length] at behind
  obtain ⟨between, split, -⟩ := split_of_dropBytes? dropped occurs behind
  rw [spanFrom?_of_dropBytes? dropped, Option.map_eq_none_iff] at missing
  exact ne_of_cutAt?_eq_none missing between last split

end ODataClient.Text
