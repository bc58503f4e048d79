import SqlCompiler.Proofs.Documents.Tokens

namespace SqlCompiler.Json

/-- A text that holds the document can be read: whole numbers fit 64 bits, floats are read back from their own texts,
and at most `depth` lists and objects are within each other. -/
inductive Legible : Nat → Json → Prop
  | null {depth : Nat} : Legible depth .null
  | bool {depth : Nat} (b : Bool) : Legible depth (.bool b)
  | int {depth : Nat} {n : Int} (low : Int64.minValue.toInt ≤ n) (high : n < UInt64.size) : Legible depth (.int n)
  | float {depth : Nat} {x : Float} (exact : read? (Json.float x).text = some (.float x)) : Legible depth (.float x)
  | str {depth : Nat} (s : String) : Legible depth (.str s)
  | arr {depth : Nat} {items : List Json} (each : ∀ item ∈ items, Legible depth item) :
      Legible (depth + 1) (.arr items)
  | obj {depth : Nat} {fields : List (String × Json)} (each : ∀ field ∈ fields, Legible depth field.2) :
      Legible (depth + 1) (.obj fields)

def readOn (counts : String → Bool) (r : Reading) (cs : List Char) : Option Reading :=
  (tokens cs).bind (List.foldlM (Reading.next counts) r)

section

variable {counts : String → Bool} {r : Reading} {outer : List Frame} {cs rest : List Char} {c : Char}

theorem readOn_token {token : Token} (first : tokens cs = (tokens rest).map (token :: ·)) :
    readOn counts r cs = (r.next counts token).bind (readOn counts · rest) := by
  rw [readOn, first]
  cases later : tokens rest with
  | none => simp [readOn, later]
  | some later => simp [readOn, later, List.foldlM_cons]

theorem readOn_mark {token : Token} {next : Reading} (mark : mark? c = some token)
    (step : r.next counts token = some next) : readOn counts r (c :: rest) = readOn counts next rest := by
  rw [readOn_token (tokens_mark mark rest), step, Option.bind_some]

/-- A place within a list or an object that is read, where `depth` more lists and objects may be opened. -/
structure Place (counts : String → Bool) (depth : Nat) (outer : List Frame) : Prop where
  inside : outer ≠ []
  counted : isSkipped counts outer = false
  room : outer.length + depth ≤ depthLimit

theorem Place.push {depth : Nat} (place : Place counts (depth + 1) outer) (frame : Frame) :
    Place counts depth (frame :: outer) := by
  obtain ⟨inside, counted, room⟩ := place
  refine ⟨List.cons_ne_nil _ _, ?_, ?_⟩
  · rwa [isSkipped, List.getLast?_cons_of_ne_nil inside]
  · simp only [List.length_cons]
    omega

theorem Place.mayOpen {depth : Nat} (place : Place counts (depth + 1) outer) : mayOpen counts outer = true := by
  have room := place.room
  simp only [Json.mayOpen, Bool.or_eq_true, decide_eq_true_eq]
  omega

def Awaits (counts : String → Bool) (r : Reading) (outer : List Frame) : Prop :=
  ∀ token, token ≠ .closeList → r.next counts token = startValue counts outer token

theorem value_awaits : Awaits counts (.value outer) outer := fun _ _ => rfl

theorem listStart_awaits : Awaits counts (.listStart outer) (.list [] :: outer) := by
  intro token starts
  cases token <;> first | rfl | exact absurd rfl starts

/-- Wherever the document stands with nothing or a mark behind it, it is supplied. -/
def Reads (counts : String → Bool) (depth : Nat) (j : Json) : Prop :=
  ∀ {outer r rest}, Place counts depth outer → Awaits counts r outer → Ends rest →
    readOn counts r (j.text.toList ++ rest) = readOn counts (supply j outer) rest

theorem Reads.of_token {depth : Nat} {j : Json} (token : Token) (starts : token ≠ .closeList)
    (one : ∀ {rest}, Ends rest → tokens (j.text.toList ++ rest) = (tokens rest).map (token :: ·))
    (supplied : ∀ {outer}, isSkipped counts outer = false → startValue counts outer token = some (supply j outer)) :
    Reads counts depth j := by
  intro outer r rest place awaits ends
  rw [readOn_token (one ends), awaits token starts, supplied place.counted, Option.bind_some]

def Reading.result? : Reading → Option Json
  | .finished j => some j
  | _ => none

theorem readCounting?_eq (s : String) :
    readCounting? counts s = (readOn counts (.value []) s.toList).bind Reading.result? := by
  rw [readCounting?, readOn]
  cases tokens s.toList with
  | none => rfl
  | some ts => cases ts.foldlM (Reading.next counts) (.value []) <;> rfl

theorem readOn_nil : readOn counts r [] = some r := by
  rw [readOn, tokens]
  rfl

theorem read?_token {s : String} {token : Token} (one : tokens s.toList = some [token]) :
    read? s = (startValue (fun _ => true) [] token).bind Reading.result? := by
  have first : tokens s.toList = (tokens []).map (token :: ·) := by rw [one, tokens]; rfl
  rw [read?, readCounting?_eq, readOn_token first]
  simp only [readOn_nil, Option.bind_fun_some]
  rfl

theorem ends_nil : Ends [] := nofun

theorem ends_mark (mark : (mark? c).isSome) : Ends (c :: rest) := by
  simpa [Ends] using mark

theorem float_numeral {x : Float} (exact : read? (Json.float x).text = some (.float x)) :
    Numeric (Json.float x).text.toList ∧
      ∃ numeral, numeral? (Json.float x).text.toList = some numeral ∧ numeral.value? = some (.float x) := by
  by_cases finite : x.isFinite
  · have numeric : Numeric (Json.float x).text.toList := by
      rw [text, if_pos finite]
      exact layout_numeric _ finite
    have alone := tokens_number numeric ends_nil
    rw [List.append_nil] at alone
    cases found : numeral? (Json.float x).text.toList with
    | none =>
      rw [found] at alone
      simp [read?, readCounting?, alone] at exact
    | some numeral =>
      rw [found, tokens] at alone
      rw [read?_token alone] at exact
      refine ⟨numeric, numeral, rfl, ?_⟩
      cases worth : numeral.value? with
      | none => simp [startValue, isSkipped, worth] at exact
      | some value => simpa [startValue, isSkipped, worth, supply, Reading.result?] using exact
  · rw [text, if_neg finite] at exact
    have alone : tokens "null".toList = some [.plain .null] := by
      have keyword := tokens_keyword (rfl : keyword? "null".toList = some .null) ends_nil
      rwa [List.append_nil, tokens] at keyword
    rw [read?_token alone] at exact
    cases exact

theorem int_reads {depth : Nat} {n : Int} (low : Int64.minValue.toInt ≤ n) (high : n < UInt64.size) :
    Reads counts depth (.int n) := by
  refine Reads.of_token (.number (numeralOf n)) nofun (fun ends => ?_) fun counted => ?_
  · rw [text, tokens_number (toString_numeric n) ends, numeral?_toString low high, Option.bind_some]
  · rw [startValue, counted, numeralOf_value low]
    rfl

theorem float_reads {depth : Nat} {x : Float} (exact : read? (Json.float x).text = some (.float x)) :
    Reads counts depth (.float x) := by
  obtain ⟨numeric, numeral, found, worth⟩ := float_numeral exact
  refine Reads.of_token (.number numeral) nofun (fun ends => ?_) fun counted => ?_
  · rw [tokens_number numeric ends, found, Option.bind_some]
  · rw [startValue, counted, worth]
    rfl

theorem str_reads {depth : Nat} (s : String) : Reads counts depth (.str s) := by
  refine Reads.of_token (.text (s.toList.map Char.toNat)) nofun (fun {rest} _ => ?_) fun counted => ?_
  · rw [text]
    exact tokens_quoted s rest
  · rw [startValue, counted, textOf?_toNat]
    rfl

theorem keyword_reads {depth : Nat} {j : Json} (keyword : keyword? j.text.toList = some j) : Reads counts depth j :=
  Reads.of_token (.plain j) nofun (tokens_keyword keyword) fun _ => rfl

theorem items_read {depth : Nat} {items : List Json} (each : ∀ item ∈ items, Reads counts depth item)
    (place : Place counts (depth + 1) outer) {done : List Json} (awaits : Awaits counts r (.list done :: outer))
    (some : items ≠ []) :
    readOn counts r ((itemTexts items).toList ++ ']' :: rest) =
      readOn counts (supply (.arr (done.reverse ++ items)) outer) rest := by
  -- The first item may follow the opening mark, every other one a comma: only `Awaits` is kept of where it stands.
  induction items generalizing done r with
  | nil => contradiction
  | cons item items ih =>
    obtain ⟨first, later⟩ := List.forall_mem_cons.mp each
    cases items with
    | nil =>
      rw [itemTexts, first (place.push _) awaits (ends_mark rfl), supply, readOn_mark rfl rfl]
      simp
    | cons next items =>
      have split : (itemTexts (item :: next :: items)).toList ++ ']' :: rest =
          item.text.toList ++ ',' :: ((itemTexts (next :: items)).toList ++ ']' :: rest) := by
        simp [itemTexts]
      have step : readOn counts (supply item (.list done :: outer))
          (',' :: ((itemTexts (next :: items)).toList ++ ']' :: rest)) =
            readOn counts (.value (.list (item :: done) :: outer))
              ((itemTexts (next :: items)).toList ++ ']' :: rest) :=
        readOn_mark rfl rfl
      rw [split, first (place.push _) awaits (ends_mark rfl), step, ih later value_awaits (List.cons_ne_nil _ _)]
      simp

theorem arr_reads {depth : Nat} {items : List Json} (each : ∀ item ∈ items, Reads counts depth item) :
    Reads counts (depth + 1) (.arr items) := by
  intro outer r rest place awaits ends
  have split : (text (.arr items)).toList ++ rest = '[' :: ((itemTexts items).toList ++ ']' :: rest) := by
    simp [text]
  have opening : r.next counts .openList = some (.listStart outer) := by
    rw [awaits .openList nofun, startValue, if_pos place.mayOpen]
  rw [split, readOn_mark rfl opening]
  cases items with
  | nil => exact readOn_mark rfl rfl
  | cons item items => exact items_read each place listStart_awaits (List.cons_ne_nil _ _)

def AwaitsName (counts : String → Bool) (r : Reading) (done : List (String × Json)) (outer : List Frame) : Prop :=
  ∀ codes, r.next counts (.text codes) = nameField counts done outer codes

section

variable {depth : Nat} {done : List (String × Json)} (counted : isSkipped counts outer = false)
include counted

theorem field_read {name : String} {value : Json} (reads : Reads counts depth value)
    (place : Place counts depth (.object done name :: outer)) (awaits : AwaitsName counts r done outer)
    (ends : Ends rest) :
    readOn counts r ((quoted name ++ ":" ++ value.text).toList ++ rest) =
      readOn counts (.field ((name, value) :: done) outer) rest := by
  have named : r.next counts (.text (name.toList.map Char.toNat)) = some (.afterKey done name outer) := by
    rw [awaits, nameField, counted, textOf?_toNat]
    rfl
  have colon : readOn counts (.afterKey done name outer) (':' :: (value.text.toList ++ rest)) =
      readOn counts (.value (.object done name :: outer)) (value.text.toList ++ rest) :=
    readOn_mark rfl rfl
  have split : (quoted name ++ ":" ++ value.text).toList ++ rest =
      (quoted name).toList ++ ':' :: (value.text.toList ++ rest) := by
    simp
  rw [split, readOn_token (tokens_quoted name _), named, Option.bind_some, colon, reads place value_awaits ends]
  rfl

theorem fields_read {fields : List (String × Json)} (each : ∀ field ∈ fields, Reads counts depth field.2)
    (places : ∀ field ∈ fields, ∀ done, Place counts depth (.object done field.1 :: outer))
    (awaits : AwaitsName counts r done outer) (some : fields ≠ []) :
    readOn counts r ((fieldTexts fields).toList ++ '\x7d' :: rest) =
      readOn counts (supply (.obj (done.reverse ++ fields)) outer) rest := by
  induction fields generalizing done r with
  | nil => contradiction
  | cons field fields ih =>
    obtain ⟨name, value⟩ := field
    obtain ⟨first, later⟩ := List.forall_mem_cons.mp each
    obtain ⟨place, laterPlaces⟩ := List.forall_mem_cons.mp places
    cases fields with
    | nil =>
      rw [fieldTexts, field_read counted first (place done) awaits (ends_mark rfl), readOn_mark rfl rfl]
      simp
    | cons next fields =>
      have split : (fieldTexts ((name, value) :: next :: fields)).toList ++ '\x7d' :: rest =
          (quoted name ++ ":" ++ value.text).toList ++
            ',' :: ((fieldTexts (next :: fields)).toList ++ '\x7d' :: rest) := by
        simp [fieldTexts]
      have step : readOn counts (.field ((name, value) :: done) outer)
          (',' :: ((fieldTexts (next :: fields)).toList ++ '\x7d' :: rest)) =
            readOn counts (.key ((name, value) :: done) outer)
              ((fieldTexts (next :: fields)).toList ++ '\x7d' :: rest) :=
        readOn_mark rfl rfl
      have key : AwaitsName counts (.key ((name, value) :: done) outer) ((name, value) :: done) outer := fun _ => rfl
      rw [split, field_read counted first (place done) awaits (ends_mark rfl), step,
        ih later laterPlaces key (List.cons_ne_nil _ _)]
      simp

theorem object_read {fields : List (String × Json)} (each : ∀ field ∈ fields, Reads counts depth field.2)
    (places : ∀ field ∈ fields, ∀ done, Place counts depth (.object done field.1 :: outer)) :
    readOn counts (.objectStart outer) ((fieldTexts fields).toList ++ '\x7d' :: rest) =
      readOn counts (supply (.obj fields) outer) rest := by
  cases fields with
  | nil => exact readOn_mark rfl rfl
  | cons field fields =>
    have start : AwaitsName counts (.objectStart outer) [] outer := fun _ => rfl
    exact fields_read counted each places start (List.cons_ne_nil _ _)

end

theorem text_obj (fields : List (String × Json)) (rest : List Char) :
    (text (.obj fields)).toList ++ rest = '\x7b' :: ((fieldTexts fields).toList ++ '\x7d' :: rest) := by
  simp [text]

theorem obj_reads {depth : Nat} {fields : List (String × Json)} (each : ∀ field ∈ fields, Reads counts depth field.2) :
    Reads counts (depth + 1) (.obj fields) := by
  intro outer r rest place awaits ends
  have opening : r.next counts .openObject = some (.objectStart outer) := by
    rw [awaits .openObject nofun, startValue, if_pos place.mayOpen]
  rw [text_obj, readOn_mark rfl opening]
  exact object_read place.counted each fun field _ done => place.push _

theorem Legible.reads {depth : Nat} {j : Json} (legible : Legible depth j) : Reads counts depth j := by
  induction legible with
  | null => exact keyword_reads rfl
  | bool b => cases b <;> exact keyword_reads rfl
  | int low high => exact int_reads low high
  | float exact => exact float_reads exact
  | str s => exact str_reads s
  | arr _ each => exact arr_reads each
  | obj _ each => exact obj_reads each

theorem readRecord?_text {names : List String} {depth : Nat} {fields : List (String × Json)}
    (known : ∀ field ∈ fields, field.1 ∈ names) (legible : ∀ field ∈ fields, Legible depth field.2)
    (room : depth < depthLimit) : readRecord? names (text (.obj fields)) = some (.obj fields) := by
  -- The whole document is within no other, so whether a field counts is decided by its own name.
  have places : ∀ field ∈ fields, ∀ done, Place names.contains depth [.object done field.1] := by
    intro field member done
    refine ⟨List.cons_ne_nil _ _, ?_, ?_⟩
    · simpa [isSkipped] using known field member
    · simp only [List.length_singleton]
      omega
  have opening : Reading.next names.contains (.value []) .openObject = some (.objectStart []) := rfl
  have whole := text_obj fields []
  rw [List.append_nil] at whole
  rw [readRecord?, readCounting?_eq, whole, readOn_mark rfl opening,
    object_read rfl (fun field member => (legible field member).reads) places, readOn_nil]
  rfl

end

end SqlCompiler.Json
