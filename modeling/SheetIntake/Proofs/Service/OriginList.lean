import SheetIntake.Service.Settings

/-!
# Lists of origins

The allowed origins are set in one text, between commas. A list of origins may be written in many
ways: blanks may stand around each origin, and items of nothing but blanks anywhere. The main
statement is that every such text is read as the list it was written for, and that the origins that
any environment allows can be joined with commas and read again. It comes from `originsOf_eq_iff`:
reading a text gives the one list of origins that is written in it.

Blanks are stripped three times: around the whole text when it is read, again when it is compared
with the mark that allows every origin, and around each item. The first time changes nothing in the
list (`originsOf_stripped`), and the mark is read as the list of itself, so that it needs no case of
its own (`origins_of_listed`).
-/

namespace SheetIntake.Service.Settings

open Text

/-- A text of nothing but blanks, perhaps of none. -/
def AllBlank (text : String) : Prop :=
  ∀ character ∈ text.toList, isBlank character = true

-- The instance is named: where all characters can be enumerated, the search finds one that does so.
instance (text : String) : Decidable (AllBlank text) :=
  List.decidableBAll (isBlank · = true) text.toList

/-- The character at an end of a text, if there is one, is not blank. -/
def NotBlank (found : Option Char) : Prop :=
  ∀ character ∈ found, isBlank character = false

instance (found : Option Char) : Decidable (NotBlank found) :=
  Option.decidableForallMem found

/-- A text that can stand for one origin among others: it has a character, no comma, and no blank at
either end. -/
structure IsOrigin (origin : String) : Prop where
  nonempty : origin ≠ ""
  commaFree : ',' ∉ origin.toList
  front : NotBlank origin.toList.head?
  back : NotBlank origin.toList.getLast?

instance (origin : String) : Decidable (IsOrigin origin) :=
  decidable_of_iff (origin ≠ "" ∧ ',' ∉ origin.toList ∧ NotBlank origin.toList.head? ∧
      NotBlank origin.toList.getLast?)
    ⟨fun ⟨nonempty, commaFree, front, back⟩ => ⟨nonempty, commaFree, front, back⟩,
      fun isOrigin => ⟨isOrigin.nonempty, isOrigin.commaFree, isOrigin.front, isOrigin.back⟩⟩

/-- Items in which origins are written: one item for each origin, in order, with blanks around it,
and any number of blank items among them. -/
inductive WrittenIn : List String → List String → Prop
  | nil : WrittenIn [] []
  | blank {origins items : List String} {item : String} (allBlank : AllBlank item)
      (rest : WrittenIn origins items) : WrittenIn origins (item :: items)
  | origin {origins items : List String} {before origin after : String} (front : AllBlank before)
      (back : AllBlank after) (rest : WrittenIn origins items) :
      WrittenIn (origin :: origins) ((before ++ origin ++ after) :: items)

/-- A text lists origins: they are written in the items that it has between commas. -/
def Lists (listed : String) (origins : List String) : Prop :=
  ∃ items, items ≠ [] ∧ WrittenIn origins items ∧ listed = ",".intercalate items

/-- An environment sets the allowed origins to a text. -/
def Environment.SetsOrigins (environment : Environment) (listed : String) : Prop :=
  Assoc.get? environment.reverse "CORS_ALLOW_ORIGINS" = some listed

instance (environment : Environment) (listed : String) :
    Decidable (environment.SetsOrigins listed) :=
  inferInstanceAs (Decidable (_ = some listed))

/-! ## Blanks around a text -/

theorem allBlank_empty : AllBlank "" := by decide

theorem stripped_append_append {before after : String} (text : String) (front : AllBlank before)
    (back : AllBlank after) : stripped (before ++ text ++ after) = stripped text := by
  rw [stripped, String.toList_append, String.toList_append, strip_append_append front back]
  rfl

/-- A text is the stripped text between blanks. -/
theorem exists_append_stripped_append (text : String) :
    ∃ before after, AllBlank before ∧ AllBlank after ∧ text = before ++ stripped text ++ after := by
  obtain ⟨before, after, front, back, split⟩ := exists_append_strip_append isBlank text.toList
  refine ⟨.ofList before, .ofList after, ?_, ?_, ?_⟩
  · simpa only [AllBlank, String.toList_ofList] using front
  · simpa only [AllBlank, String.toList_ofList] using back
  · rw [← String.toList_inj]
    simpa only [stripped, String.toList_append, String.toList_ofList] using split

/-- Stripping leaves nothing of a text exactly when all of it is blank. -/
theorem stripped_eq_empty_iff {text : String} : stripped text = "" ↔ AllBlank text := by
  constructor
  · intro gone
    obtain ⟨before, after, front, back, split⟩ := exists_append_stripped_append text
    intro character present
    rw [split, gone, String.append_empty, String.toList_append, List.mem_append] at present
    exact present.elim (front character) (back character)
  · intro allBlank
    have padded := stripped_append_append "" allBlank allBlank_empty
    rwa [String.append_empty, String.append_empty] at padded

theorem AllBlank.commaFree {text : String} (allBlank : AllBlank text) : ',' ∉ text.toList :=
  fun present => absurd (allBlank ',' present) (by decide)

theorem IsOrigin.stripped_eq {origin : String} (isOrigin : IsOrigin origin) :
    stripped origin = origin := by
  rw [stripped, strip_eq_self isOrigin.front isOrigin.back, String.ofList_toList]

/-- What stripping leaves of an item is an origin, if it leaves anything. -/
theorem isOrigin_stripped {item : String} (commaFree : ',' ∉ item.toList)
    (kept : stripped item ≠ "") : IsOrigin (stripped item) where
  nonempty := kept
  commaFree := by
    obtain ⟨before, after, -, -, split⟩ := exists_append_stripped_append item
    intro present
    apply commaFree
    rw [split, String.toList_append, String.toList_append]
    exact List.mem_append_left _ (List.mem_append_right _ present)
  front first leads := by
    rw [stripped, String.toList_ofList] at leads
    exact head?_strip_not leads
  back last ends := by
    rw [stripped, String.toList_ofList] at ends
    exact getLast?_strip_not ends

/-! ## Items between commas -/

theorem comma_notMem_of_mem_splitOn {characters item : List Char}
    (present : item ∈ characters.splitOn ',') : ',' ∉ item := by
  induction characters generalizing item with
  | nil =>
    rw [List.splitOn_nil, List.mem_singleton] at present
    rw [present]
    exact List.not_mem_nil
  | cons character rest inductionHypothesis =>
    obtain ⟨first, others, split⟩ := List.exists_cons_of_ne_nil (List.splitOn_ne_nil ',' rest)
    rw [split] at inductionHypothesis
    rw [List.splitOn_cons_eq_if_modifyHead, split] at present
    split at present
    · rcases List.mem_cons.mp present with rfl | later
      · exact List.not_mem_nil
      · exact inductionHypothesis later
    · next other =>
      rcases List.mem_cons.mp present with rfl | later
      · rw [List.mem_cons, not_or]
        exact ⟨fun isComma => other (beq_iff_eq.mpr isComma.symm),
          inductionHypothesis List.mem_cons_self⟩
      · exact inductionHypothesis (List.mem_cons_of_mem _ later)

/-- Every text is some items between commas. -/
theorem exists_items (listed : String) :
    ∃ items, items ≠ [] ∧ (∀ item ∈ items, ',' ∉ item.toList) ∧ listed = ",".intercalate items := by
  refine ⟨(listed.toList.splitOn ',').map .ofList, ?_, ?_, ?_⟩
  · rw [ne_eq, List.map_eq_nil_iff]
    exact List.splitOn_ne_nil ',' _
  · intro item present
    obtain ⟨characters, split, rfl⟩ := List.mem_map.mp present
    rw [String.toList_ofList]
    exact comma_notMem_of_mem_splitOn split
  · have kept : String.toList ∘ String.ofList = id := funext fun _ => String.toList_ofList
    rw [← String.toList_inj, String.toList_intercalate, List.map_map, kept, List.map_id]
    exact (List.intercalate_splitOn ',').symm

/-- What a text lists is what stripping leaves of its items. -/
theorem originsOf_intercalate {items : List String} (nonempty : items ≠ [])
    (commaFree : ∀ item ∈ items, ',' ∉ item.toList) :
    originsOf (",".intercalate items) = (items.map stripped).filter (· ≠ "") := by
  have split : (",".intercalate items).toList.splitOn ',' = items.map String.toList := by
    rw [String.toList_intercalate]
    apply List.splitOn_intercalate ','
    · intro characters present
      obtain ⟨item, there, rfl⟩ := List.mem_map.mp present
      exact commaFree item there
    · rwa [ne_eq, List.map_eq_nil_iff]
  rw [originsOf, split, List.map_map]
  rfl

/-! ## Blanks around a list -/

theorem originsOf_intercalate_congr {items others : List String} (nonempty : items ≠ [])
    (commaFree : ∀ item ∈ items, ',' ∉ item.toList) (otherFree : ∀ item ∈ others, ',' ∉ item.toList)
    (same : others.map stripped = items.map stripped) :
    originsOf (",".intercalate others) = originsOf (",".intercalate items) := by
  have otherNonempty : others ≠ [] := by
    rintro rfl
    exact nonempty (List.map_eq_nil_iff.mp same.symm)
  rw [originsOf_intercalate otherNonempty otherFree, originsOf_intercalate nonempty commaFree, same]

theorem append_intercalate_cons (before first : String) (others : List String) :
    before ++ ",".intercalate (first :: others) =
      ",".intercalate ((before ++ first) :: others) := by
  cases others with
  | nil => rw [String.intercalate_singleton, String.intercalate_singleton]
  | cons second others => simp only [String.intercalate_cons_cons, String.append_assoc]

theorem intercalate_append_singleton_append (earlier : List String) (last after : String) :
    ",".intercalate (earlier ++ [last]) ++ after =
      ",".intercalate (earlier ++ [last ++ after]) := by
  induction earlier with
  | nil => simp only [List.nil_append, String.intercalate_singleton]
  | cons first earlier inductionHypothesis =>
    rw [List.cons_append, List.cons_append, String.intercalate_cons_of_ne_nil (by simp),
      String.intercalate_cons_of_ne_nil (by simp), String.append_assoc, inductionHypothesis]

/-- Blanks before a text are stripped with its first item. -/
theorem originsOf_append_left {before : String} (allBlank : AllBlank before) (listed : String) :
    originsOf (before ++ listed) = originsOf listed := by
  obtain ⟨items, nonempty, commaFree, rfl⟩ := exists_items listed
  obtain ⟨first, others, rfl⟩ := List.exists_cons_of_ne_nil nonempty
  rw [append_intercalate_cons]
  apply originsOf_intercalate_congr nonempty commaFree
  · rw [List.forall_mem_cons] at commaFree ⊢
    refine ⟨?_, commaFree.2⟩
    rw [String.toList_append, List.mem_append, not_or]
    exact ⟨allBlank.commaFree, commaFree.1⟩
  · have same := stripped_append_append first allBlank allBlank_empty
    rw [String.append_empty] at same
    rw [List.map_cons, List.map_cons, same]

/-- Blanks after a text are stripped with its last item. -/
theorem originsOf_append_right {after : String} (allBlank : AllBlank after) (listed : String) :
    originsOf (listed ++ after) = originsOf listed := by
  obtain ⟨items, nonempty, commaFree, rfl⟩ := exists_items listed
  obtain ⟨earlier, last, split⟩ := (List.eq_nil_or_concat items).resolve_left nonempty
  rw [List.concat_eq_append] at split
  subst split
  rw [intercalate_append_singleton_append]
  apply originsOf_intercalate_congr nonempty commaFree
  · rw [List.forall_mem_append, List.forall_mem_singleton] at commaFree ⊢
    refine ⟨commaFree.1, ?_⟩
    rw [String.toList_append, List.mem_append, not_or]
    exact ⟨commaFree.2, allBlank.commaFree⟩
  · have same := stripped_append_append last allBlank_empty allBlank
    rw [String.empty_append] at same
    rw [List.map_append, List.map_append, List.map_singleton, List.map_singleton, same]

/-- A text lists the same origins whether or not it is stripped first. -/
theorem originsOf_stripped (listed : String) : originsOf (stripped listed) = originsOf listed := by
  obtain ⟨before, after, front, back, split⟩ := exists_append_stripped_append listed
  calc originsOf (stripped listed)
    _ = originsOf (before ++ stripped listed) := (originsOf_append_left front _).symm
    _ = originsOf (before ++ stripped listed ++ after) := (originsOf_append_right back _).symm
    _ = originsOf listed := by rw [← split]

/-! ## What a text lists -/

namespace WrittenIn

variable {origins items : List String}

theorem commaFree (written : WrittenIn origins items)
    (areOrigins : ∀ origin ∈ origins, IsOrigin origin) : ∀ item ∈ items, ',' ∉ item.toList := by
  induction written with
  | nil => exact fun item present => absurd present List.not_mem_nil
  | blank allBlank _ inductionHypothesis =>
    exact List.forall_mem_cons.mpr ⟨allBlank.commaFree, inductionHypothesis areOrigins⟩
  | origin front back _ inductionHypothesis =>
    rw [List.forall_mem_cons] at areOrigins ⊢
    refine ⟨?_, inductionHypothesis areOrigins.2⟩
    rw [String.toList_append, String.toList_append, List.mem_append, List.mem_append,
      not_or, not_or]
    exact ⟨⟨front.commaFree, areOrigins.1.commaFree⟩, back.commaFree⟩

/-- Stripping the items and leaving out those of which nothing remains gives back the origins that
are written in them. -/
theorem filter_stripped (written : WrittenIn origins items)
    (areOrigins : ∀ origin ∈ origins, IsOrigin origin) :
    (items.map stripped).filter (· ≠ "") = origins := by
  induction written with
  | nil => rfl
  | blank allBlank _ inductionHypothesis =>
    rw [List.map_cons, stripped_eq_empty_iff.mpr allBlank, List.filter_cons_of_neg (by decide),
      inductionHypothesis areOrigins]
  | origin front back _ inductionHypothesis =>
    obtain ⟨isOrigin, others⟩ := List.forall_mem_cons.mp areOrigins
    rw [List.map_cons, stripped_append_append _ front back, isOrigin.stripped_eq,
      List.filter_cons_of_pos (by simpa using isOrigin.nonempty), inductionHypothesis others]

/-- Whatever the items, what remains of them is written in them. -/
theorem of_stripped (items : List String) :
    WrittenIn ((items.map stripped).filter (· ≠ "")) items := by
  induction items with
  | nil => exact .nil
  | cons item items inductionHypothesis =>
    rw [List.map_cons]
    by_cases gone : stripped item = ""
    · rw [List.filter_cons_of_neg (by simpa using gone)]
      exact .blank (stripped_eq_empty_iff.mp gone) inductionHypothesis
    · rw [List.filter_cons_of_pos (by simpa using gone)]
      obtain ⟨before, after, front, back, split⟩ := exists_append_stripped_append item
      have written : WrittenIn (stripped item :: _) ((before ++ stripped item ++ after) :: items) :=
        .origin front back inductionHypothesis
      rwa [← split] at written

theorem self (origins : List String) : WrittenIn origins origins := by
  induction origins with
  | nil => exact .nil
  | cons origin origins inductionHypothesis =>
    have written : WrittenIn (origin :: origins) (("" ++ origin ++ "") :: origins) :=
      .origin allBlank_empty allBlank_empty inductionHypothesis
    rwa [String.append_empty, String.empty_append] at written

end WrittenIn

/-- Reading a text gives the origins that it lists, and only these. -/
theorem originsOf_eq_iff {listed : String} {origins : List String} :
    originsOf listed = origins ↔
      (∀ origin ∈ origins, IsOrigin origin) ∧ Lists listed origins := by
  constructor
  · rintro rfl
    obtain ⟨items, nonempty, commaFree, rfl⟩ := exists_items listed
    rw [originsOf_intercalate nonempty commaFree]
    refine ⟨fun origin present => ?_, items, nonempty, .of_stripped items, rfl⟩
    rw [List.mem_filter, List.mem_map, decide_eq_true_eq] at present
    obtain ⟨⟨item, there, rfl⟩, kept⟩ := present
    exact isOrigin_stripped (commaFree item there) kept
  · rintro ⟨areOrigins, items, nonempty, written, rfl⟩
    rw [originsOf_intercalate nonempty (written.commaFree areOrigins),
      written.filter_stripped areOrigins]

/-! ## What is allowed -/

theorem originsOf_anyOrigin : originsOf anyOrigin = [anyOrigin] := by decide

/-- A text that is set is read as a list, also when it is the mark that allows every origin. -/
theorem origins_of_listed {settings : Settings} {listed : String}
    (isSet : settings.corsAllowOrigins = some listed) : settings.origins = originsOf listed := by
  rw [origins, isSet]
  dsimp only
  split
  · next isMark => rw [← originsOf_stripped, isMark, originsOf_anyOrigin]
  · rfl

/-- An environment that sets the origins allows those that its text lists, if there are any. -/
theorem origins_read_of_setsOrigins {environment : Environment} {folder listed : String}
    (isSet : environment.SetsOrigins listed) (listsSome : originsOf listed ≠ []) :
    (read environment folder).origins = originsOf listed := by
  have kept : stripped listed ≠ "" := by
    intro gone
    rw [← originsOf_stripped, gone] at listsSome
    exact listsSome (by decide)
  have found : (read environment folder).corsAllowOrigins = some (stripped listed) := by
    change text? environment "CORS_ALLOW_ORIGINS" = _
    rw [text?, isSet, Option.map_some, Option.filter_some, if_pos (by simpa using kept)]
  rw [origins_of_listed found, originsOf_stripped]

theorem isOrigin_of_mem_origins {settings : Settings} {origin : String}
    (allowed : origin ∈ settings.origins) : IsOrigin origin := by
  have listed : ∃ text, settings.origins = originsOf text := by
    cases isSet : settings.corsAllowOrigins with
    | none => exact ⟨anyOrigin, by rw [origins, isSet, originsOf_anyOrigin]⟩
    | some text => exact ⟨text, origins_of_listed isSet⟩
  obtain ⟨text, same⟩ := listed
  rw [same] at allowed
  exact (originsOf_eq_iff.mp rfl).1 origin allowed

/-- An environment that lists origins, however they are written, allows just these. -/
theorem origins_read_of_lists {environment : Environment} {folder listed : String}
    {origins : List String} (nonempty : origins ≠ [])
    (areOrigins : ∀ origin ∈ origins, IsOrigin origin) (lists : Lists listed origins)
    (isSet : environment.SetsOrigins listed) : (read environment folder).origins = origins := by
  have listing : originsOf listed = origins := originsOf_eq_iff.mpr ⟨areOrigins, lists⟩
  rw [origins_read_of_setsOrigins isSet (by rwa [listing]), listing]

/-- Lists of origins survive their text form. However a list of some origins is written, an
environment that is set to this text allows exactly these origins, in order. And whatever the
environment, each origin that it allows can stand in a list, so that an environment that is set to
the allowed origins, joined with commas, allows the same ones again, unless there are none. -/
theorem listed_origins_read_back (environment : Environment) (folder : String) :
    (∀ (origins : List String) (listed : String), origins ≠ [] →
      (∀ origin ∈ origins, IsOrigin origin) → Lists listed origins →
      environment.SetsOrigins listed → (read environment folder).origins = origins) ∧
    let allowed := (read environment folder).origins
    (∀ origin ∈ allowed, IsOrigin origin) ∧
    (allowed ≠ [] → ∀ (other : Environment) (otherFolder : String),
      other.SetsOrigins (",".intercalate allowed) →
      (read other otherFolder).origins = allowed) := by
  refine ⟨fun _ _ nonempty areOrigins => origins_read_of_lists nonempty areOrigins,
    fun _ => isOrigin_of_mem_origins, ?_⟩
  intro nonempty other otherFolder isSet
  have joined : Lists (",".intercalate (read environment folder).origins) _ :=
    ⟨_, nonempty, .self _, rfl⟩
  exact origins_read_of_lists nonempty (fun _ => isOrigin_of_mem_origins) joined isSet

/-- A list of origins with the mark that allows every origin among them. -/
def mixedOrigins : List String := ["https://a.example:8443", "*", "http://b.example"]

/-- The origins in items, with a tab, a wide space and blank items among them. -/
def mixedItems : List String :=
  [" ", "https://a.example:8443 ", "", "\u2003*", "\thttp://b.example ", " "]

/-- An environment that lists the origins so. -/
def mixedEnvironment : Environment :=
  [("CORS_ALLOW_ORIGINS", ",".intercalate mixedItems), ("PORT", "8001")]

theorem mixed_origins_read_back :
    (∀ origin ∈ mixedOrigins, IsOrigin origin) ∧
      Lists (",".intercalate mixedItems) mixedOrigins ∧
      (read mixedEnvironment "/srv").origins = mixedOrigins ∧
      (read [("CORS_ALLOW_ORIGINS", "https://a.example:8443,*,http://b.example")] "").origins =
        mixedOrigins := by
  have areOrigins : ∀ origin ∈ mixedOrigins, IsOrigin origin := by decide
  have space : AllBlank " " := by decide
  have wide : AllBlank "\u2003" := by decide
  have tab : AllBlank "\t" := by decide
  have written : WrittenIn mixedOrigins mixedItems :=
    .blank space (.origin allBlank_empty space (.blank allBlank_empty
      (.origin wide allBlank_empty (.origin tab space (.blank space .nil)))))
  have lists : Lists (",".intercalate mixedItems) mixedOrigins :=
    ⟨mixedItems, by decide, written, rfl⟩
  obtain ⟨readBack, -, again⟩ := listed_origins_read_back mixedEnvironment "/srv"
  have allowed := readBack mixedOrigins _ (by decide) areOrigins lists rfl
  rw [allowed] at again
  exact ⟨areOrigins, lists, allowed, again (by decide) _ "" (by decide)⟩

end SheetIntake.Service.Settings
