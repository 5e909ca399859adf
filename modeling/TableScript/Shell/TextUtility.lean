import TableScript.Shell.FileUtility
import TableScript.Shell.TextPattern

/-! The programs that take texts apart, put them in order and count them. -/
namespace TableScript.Shell

open Run

def Options.paths (options : Options) : List String :=
  if options.operands = [] then ["-"] else options.operands

def forEachText (program : String) (paths : List String) (body : String → String → Run Unit) : Run Nat :=
  forAll paths fun path => do
    match ← inputFrom program path with
    | some text =>
      body path text
      return true
    | none => return false

def wholeText (program : String) (paths : List String) : Run (String × Nat) := do
  let mut whole := ""
  let mut status := 0
  for path in paths do
    match ← inputFrom program path with
    | some text => whole := whole ++ text
    | none => status := 1
  return (whole, status)

def withEnd (line : String) : String := withoutEnd line ++ "\n"

def withCount (arguments : List String) : List String :=
  match arguments with
  | first :: rest => match first.toList with
    | '-' :: c :: more => if c.isDigit then "-n" :: String.ofList (c :: more) :: rest else arguments
    | _ => arguments
  | [] => []

def signedCount? (text : String) : Option (Option Char × Nat) :=
  let (sign, digits) := match text.toList with
    | '-' :: digits => (some '-', digits)
    | '+' :: digits => (some '+', digits)
    | digits => (none, digits)
  if digits ≠ [] ∧ digits.all Char.isDigit then some (sign, Text.decimalValue digits) else none

def runPart (program : String) (cut : List String → Option Char → Nat → List String)
    (arguments : List String) : Run Nat :=
  withOptions program ⟨"qvfz", "nc", [("lines", 'n'), ("bytes", 'c'), ("quiet", 'q')]⟩ 1 (withCount arguments)
    fun options => do
    let amount := (options.value? 'c').getD ((options.value? 'n').getD "10")
    match signedCount? amount with
    | none =>
      let sort := if (options.value? 'c').isSome then "bytes: " else "lines: "
      report (program ++ ": invalid number of " ++ sort ++ inQuotes amount)
      return 1
    | some (sign, count) =>
      let paths := options.paths
      let mut isFirst := true
      let mut status := 0
      for path in paths do
        let text ← if path = "-" then do pure ((← readAll 0).toOption) else do
          match ← nodeOf path true with
          | .error fault =>
            report (program ++ ": cannot open " ++ inQuotes path ++ " for reading: " ++ fault.reason)
            pure none
          | .ok (_, .file bytes) => pure (some (ofBytes bytes))
          | .ok _ =>
            report (program ++ ": error reading " ++ inQuotes path ++ ": " ++ Fault.isDirectory.reason)
            pure none
        match text with
        | none => status := 1
        | some text =>
          if (1 < paths.length ∨ options.has 'v') ∧ !options.has 'q' then
            let title := if path = "-" then "standard input" else path
            print ((if isFirst then "" else "\n") ++ "==> " ++ title ++ " <==\n")
          isFirst := false
          let parts := if (options.value? 'c').isSome then text.toList.map Char.toString else linesOf text
          print (String.join (cut parts sign count))
      return status

def runHead : List String → Run Nat := runPart "head" fun parts sign count =>
  if sign = some '-' then parts.take (parts.length - count) else parts.take count

def runTail (arguments : List String) : Run Nat :=
  let arguments := match arguments with
    | first :: rest => if first.toList.head? = some '+' ∧ (signedCount? first).isSome then "-n" :: first :: rest
      else arguments
    | [] => []
  runPart "tail" (fun parts sign count =>
    if sign = some '+' then parts.drop (count - 1) else parts.drop (parts.length - count)) arguments

def counts (text : String) : List Nat :=
  let words := (text.toList.foldl (fun (count, inWord) c =>
    if isSpace c then (count, false) else (if inWord then count else count + 1, true)) (0, false)).1
  let lines := (text.toList.filter (· = '\n')).length
  let longest := ((linesOf text).map fun line => (withoutEnd line).length).foldl max 0
  [lines, words, text.length, text.length, longest]

def runWc (arguments : List String) : Run Nat :=
  withOptions "wc" ⟨"lwcmL", "", [("lines", 'l'), ("words", 'w'), ("bytes", 'c'), ("chars", 'm')]⟩ 1 arguments
    fun options => do
    let wanted := ['l', 'w', 'm', 'c', 'L']
    let shown := if options.letters = [] then ['l', 'w', 'c'] else options.letters
    let pick (counts : List Nat) : List Nat :=
      (wanted.zip counts).filterMap fun (letter, count) => if shown.contains letter then some count else none
    let paths := options.paths
    let mut rows := []
    let mut status := 0
    let mut isPlain := true
    for path in paths do
      if path = "-" then
        if let some (_, file) ← openFile? 0 then
          if file.target matches .pipe | .terminal then isPlain := false
      match ← inputFrom "wc" path with
      | some text => rows := rows ++ [(counts text, if path = "-" ∧ options.operands = [] then "" else " " ++ path)]
      | none =>
        if ← isDirectory path then rows := rows ++ [([0, 0, 0, 0, 0], " " ++ path)]
        status := 1
    let total := rows.foldl (fun sums (counts, _) =>
      match sums, counts with
      | [a, b, c, d, e], [f, g, h, i, j] => [a + f, b + g, c + h, d + i, max e j]
      | sums, _ => sums) [0, 0, 0, 0, 0]
    let shownRows := if 1 < paths.length then rows ++ [(total, " total")] else rows
    let isSingle := paths.length = 1 ∧ (pick [0, 0, 0, 0, 0]).length = 1
    let width := if isSingle then 1 else
      max (if isPlain then 1 else 7) (toString (total.getD 3 0)).length
    for (counts, name) in shownRows do
      print (String.intercalate " " ((pick counts).map fun count => filledLeft width ' ' (toString count)) ++ name ++
        "\n")
    return status

/-! ### Order -/

structure SortKey where
  first : Nat
  last : Option Nat
  letters : List Char

def SortKey.read? (text : String) : Option SortKey :=
  let isPart (c : Char) : Bool := c.isDigit || c = '.'
  let (start, stop) := match text.toList.span (· ≠ ',') with
    | (start, ',' :: stop) => (start, some stop)
    | (start, _) => (start, none)
  let letters (part : List Char) : List Char := part.dropWhile isPart
  let number (part : List Char) : Nat := Text.decimalValue (part.takeWhile Char.isDigit)
  if number start = 0 then none
  else some ⟨number start, stop.map number, letters start ++ (stop.map letters).getD []⟩

def sortFields (separator : Option Char) (line : List Char) : List (List Char) :=
  match separator with
  | some separator => line.splitOn separator
  | none =>
    let rec blankFields : Nat → List Char → List (List Char)
      | 0, _ | _, [] => []
      | steps + 1, text =>
        let blanks := text.takeWhile fun c => c = ' ' || c = '\t'
        let body := (text.drop blanks.length).takeWhile fun c => c ≠ ' ' && c ≠ '\t'
        (blanks ++ body) :: blankFields steps (text.drop (blanks.length + body.length))
    blankFields (line.length + 1) line

def SortKey.part (key : SortKey) (separator : Option Char) (line : List Char) : List Char :=
  let fields := (sortFields separator line).drop (key.first - 1)
  let fields := match key.last with
    | some last => if last = 0 then fields else fields.take (last + 1 - key.first)
    | none => fields
  List.intercalate separator.toList fields

def leadingNumber (text : List Char) : Int :=
  let text := text.dropWhile fun c => c = ' ' || c = '\t'
  let (isNegative, text) := match text with
    | '-' :: rest => (true, rest)
    | rest => (false, rest)
  let whole := text.takeWhile Char.isDigit
  let fraction := match text.drop whole.length with
    | '.' :: rest => rest.takeWhile Char.isDigit
    | _ => []
  let fraction := (fraction ++ List.replicate 6 '0').take 6
  let value : Int := Text.decimalValue (whole ++ fraction)
  if isNegative then -value else value

def compareTexts (letters : List Char) (first second : List Char) : Ordering :=
  let strip (text : List Char) : List Char :=
    if letters.contains 'b' then text.dropWhile fun c => c = ' ' || c = '\t' else text
  let fold (text : List Char) : List Char := if letters.contains 'f' then text.map Char.toUpper else text
  let keep (text : List Char) : List Char :=
    if letters.contains 'd' then text.filter fun c => c.isAlphanum || c = ' ' else text
  let order := if letters.contains 'n' then compare (leadingNumber first) (leadingNumber second)
    else compare (String.ofList (keep (fold (strip first)))) (String.ofList (keep (fold (strip second))))
  if letters.contains 'r' then order.swap else order

def compareLines (separator : Option Char) (letters : List Char) (keys : List SortKey)
    (first second : List Char) : Ordering :=
  let ordinary := letters.filter fun c => "bdfnr".toList.contains c
  if keys = [] then compareTexts ordinary first second
  else keys.foldl (fun order key =>
    order.then (compareTexts (if key.letters = [] then ordinary else key.letters)
      (key.part separator first) (key.part separator second))) .eq

def distinct {α : Type} (same : α → α → Bool) : List α → List α
  | [] => []
  | first :: rest => match distinct same rest with
    | [] => [first]
    | second :: others => if same first second then first :: others else first :: second :: others

def runSort (arguments : List String) : Run Nat :=
  withOptions "sort" ⟨"rnufbcdsmzhgMVC", "kto", [("reverse", 'r'), ("numeric-sort", 'n'), ("unique", 'u'),
      ("key", 'k'), ("field-separator", 't'), ("output", 'o')]⟩ 2 arguments fun options => do
    let mut lines := []
    for path in options.paths do
      match ← (do
        if path = "-" then return (← readAll 0)
        else match ← nodeOf path true with
          | .ok (_, .file bytes) => return .ok (ofBytes bytes)
          | .ok _ => return .error .isDirectory
          | .error fault => return .error fault : Run (Except Fault String)) with
      | .ok text => lines := lines ++ (linesOf text).map withoutEnd
      | .error fault =>
        let failed := if fault = .isDirectory then "read failed: " else "cannot read: "
        report ("sort: " ++ failed ++ path ++ ": " ++ fault.reason)
        return 2
    let separator := (options.value? 't').bind fun text => text.toList.head?
    let keys := (options.values.filter fun (letter, _) => letter = 'k').filterMap fun (_, text) => SortKey.read? text
    let keyed (first second : String) : Ordering :=
      compareLines separator options.letters keys first.toList second.toList
    let isStable := options.has 's' || options.has 'u'
    let whole (first second : String) : Ordering :=
      let order := compare first second
      if options.has 'r' then order.swap else order
    let order (first second : String) : Ordering :=
      if isStable then keyed first second else (keyed first second).then (whole first second)
    if options.has 'c' then
      let disorder := ((lines.zip lines.tail).zipIdx).find? fun ((first, second), _) => order first second = .gt
      match disorder with
      | some ((_, second), place) =>
        report ("sort: " ++ options.paths.headD "-" ++ ":" ++ toString (place + 2) ++ ": disorder: " ++ second)
        return 1
      | none => return 0
    let sorted := lines.mergeSort fun first second => order first second != .gt
    let sorted := if options.has 'u' then distinct (fun first second => keyed first second = .eq) sorted else sorted
    let text := String.join (sorted.map (· ++ "\n"))
    match options.value? 'o' with
    | none =>
      print text
      return 0
    | some path => match ← placeOf path true with
      | .ok names =>
        placeNode names (.file (toBytes text))
        return 0
      | .error fault =>
        report ("sort: open failed: " ++ path ++ ": " ++ fault.reason)
        return 2

def runsOf (same : String → String → Bool) : List String → List (String × Nat)
  | [] => []
  | line :: rest => match runsOf same rest with
    | (next, count) :: runs => if same line next then (line, count + 1) :: runs else (line, 1) :: (next, count) :: runs
    | [] => [(line, 1)]

def runUniq (arguments : List String) : Run Nat :=
  withOptions "uniq" ⟨"cduiD", "fsw", [("count", 'c'), ("repeated", 'd'), ("unique", 'u'), ("ignore-case", 'i')]⟩ 1
    arguments fun options => do
    match ← inputFrom "uniq" (options.operands.headD "-") with
    | none => return 1
    | some text =>
      let fold (line : String) : String := if options.has 'i' then line.toLower else line
      let runs := runsOf (fun first second => fold first = fold second) ((linesOf text).map withoutEnd)
      let shown := runs.filter fun (_, count) =>
        (!options.has 'd' || 1 < count) && (!options.has 'u' || count = 1)
      print (String.join (shown.map fun (line, count) =>
        (if options.has 'c' then filledLeft 7 ' ' (toString count) ++ " " else "") ++ line ++ "\n"))
      return 0

def runPaste (arguments : List String) : Run Nat :=
  withOptions "paste" ⟨"sz", "d", []⟩ 1 arguments fun options => do
    let marks := (unescaped 64 ((options.value? 'd').getD "\t").toList).1
    let mark (place : Nat) : String := match marks[place % max 1 marks.length]? with
      | some c => c.toString
      | none => ""
    let mut columns := []
    for path in options.paths do
      match ← inputFrom "paste" path with
      | some text => columns := columns ++ [(linesOf text).map withoutEnd]
      | none => return 1
    let row (cells : List String) : String :=
      String.join (cells.zipIdx.map fun (cell, place) => (if place = 0 then "" else mark (place - 1)) ++ cell) ++ "\n"
    if options.has 's' then print (String.join (columns.map row))
    else
      let height := (columns.map List.length).foldl max 0
      print (String.join ((List.range height).map fun place =>
        row (columns.map fun column => column.getD place "")))
    return 0

/-! ### Parts of lines -/

def characterSet : Nat → List Char → List Char
  | 0, _ | _, [] => []
  | steps + 1, '[' :: ':' :: rest =>
    let name := rest.takeWhile Char.isAlpha
    match rest.drop name.length with
    | ':' :: ']' :: rest =>
      ((List.range 256).map Char.ofNat).filter (isOfSort (String.ofList name)) ++ characterSet steps rest
    | _ => '[' :: characterSet steps (':' :: rest)
  | steps + 1, text =>
    let (first, rest) := character text
    match rest with
    | '-' :: after =>
      if after = [] then first :: '-' :: []
      else
        let (last, rest) := character after
        ((List.range (last.toNat + 1 - first.toNat)).map fun place => Char.ofNat (first.toNat + place)) ++
          characterSet steps rest
    | rest => first :: characterSet steps rest
where
  character : List Char → Char × List Char
    | '\\' :: rest => (escape? rest).getD (rest.headD '\\', rest.drop 1)
    | c :: rest => (c, rest)
    | [] => ('\x00', [])

def squeezedCharacters (set : List Char) (text : List Char) : List Char :=
  distinct (fun first second => first = second && set.contains first) text

def runTr (arguments : List String) : Run Nat :=
  withOptions "tr" ⟨"cCdst", "", [("delete", 'd'), ("squeeze-repeats", 's'), ("complement", 'c')]⟩ 1 arguments
    fun options => do
    let needsTwo := !options.has 'd' && !options.has 's'
    match options.operands with
    | [] =>
      misuse "tr" "missing operand"
      return 1
    | [only] =>
      if needsTwo then
        report ("tr: missing operand after " ++ inQuotes only)
        report "Two strings must be given when translating."
        report "Try 'tr --help' for more information."
        return 1
    | _ => pure ()
    let expand (text : String) : List Char := characterSet (text.length + 1) text.toList
    let first := expand (options.operands.headD "")
    let first := if options.has 'c' ∨ options.has 'C' then
      ((List.range 256).map Char.ofNat).filter fun c => !first.contains c else first
    let second := expand (options.operands.getD 1 "")
    let text := ((← readAll 0).toOption.getD "").toList
    let translates := !options.has 'd' && decide (2 ≤ options.operands.length)
    let text := if options.has 'd' then text.filter fun c => !first.contains c
      else if translates ∧ second ≠ [] then
        let second := if options.has 't' then second
          else second ++ List.replicate (first.length - second.length) (second.getLastD 'x')
        let table := (first.zip second).reverse
        text.map fun c => (table.lookup c).getD c
      else text
    let text := if options.has 's' then
      squeezedCharacters (if decide (2 ≤ options.operands.length) then second else first) text else text
    print (String.ofList text)
    return 0

def placesIn (text : String) : Option (List (Nat × Option Nat)) :=
  (text.splitOn ",").mapM fun part =>
    match (part.splitOn "-").map fun digits => (digits, digits.toNat?) with
    | [(_, some place)] => if place = 0 then none else some (place, some place)
    | [(_, some first), ("", _)] => some (first, none)
    | [("", _), (_, some last)] => some (1, some last)
    | [(_, some first), (_, some last)] => if first = 0 ∨ last < first then none else some (first, some last)
    | _ => none

def isPlaced (places : List (Nat × Option Nat)) (place : Nat) : Bool :=
  places.any fun (first, last) => decide (first ≤ place) && match last with
    | some last => decide (place ≤ last)
    | none => true

def runCut (arguments : List String) : Run Nat :=
  withOptions "cut" ⟨"sn", "dfcb", [("delimiter", 'd'), ("fields", 'f'), ("characters", 'c'), ("bytes", 'b'),
      ("output-delimiter", 'o'), ("complement", 'x'), ("only-delimited", 's')]⟩ 1 arguments fun options => do
    let fields := options.value? 'f'
    match fields.orElse fun _ => (options.value? 'c').orElse fun _ => options.value? 'b' with
    | none =>
      misuse "cut" "you must specify a list of bytes, characters, or fields"
      return 1
    | some list => match placesIn list with
      | none =>
        misuse "cut" (if fields.isSome then "invalid field value " ++ inQuotes list
          else "invalid byte/character position " ++ inQuotes list)
        return 1
      | some places =>
        let delimiter := ((options.value? 'd').getD "\t").toList.headD '\x00'
        let joint := (options.value? 'o').getD delimiter.toString
        let isChosen (place : Nat) : Bool := isPlaced places place != options.has 'x'
        let choose {α : Type} (parts : List α) : List α :=
          (parts.zipIdx.filter fun (_, place) => isChosen (place + 1)).map Prod.fst
        forEachText "cut" options.paths fun _ text => do
          for line in (linesOf text).map withoutEnd do
            let isWhole := fields.isSome && !line.toList.contains delimiter
            let part := if fields.isNone then String.ofList (choose line.toList)
              else if isWhole then line
              else String.intercalate joint (choose ((line.toList.splitOn delimiter).map String.ofList))
            if !(isWhole ∧ options.has 's') then print (part ++ "\n")

/-! ### Names and numbers -/

def withoutSuffix (suffix name : String) : String :=
  if suffix ≠ name ∧ suffix.toList.isSuffixOf name.toList then
    String.ofList (name.toList.take (name.length - suffix.length))
  else name

def runBasename (arguments : List String) : Run Nat :=
  withOptions "basename" ⟨"az", "s", [("multiple", 'a'), ("suffix", 's')]⟩ 1 arguments fun options => do
    match options.operands with
    | [] =>
      misuse "basename" "missing operand"
      return 1
    | path :: rest =>
      let suffix := options.value? 's'
      if options.has 'a' ∨ suffix.isSome then
        for path in path :: rest do print (withoutSuffix (suffix.getD "") (baseName path) ++ "\n")
        return 0
      else match rest with
        | _ :: extra :: _ =>
          misuse "basename" ("extra operand " ++ inQuotes extra)
          return 1
        | rest =>
          print (withoutSuffix (rest.headD "") (baseName path) ++ "\n")
          return 0

def runDirname (arguments : List String) : Run Nat :=
  withOptions "dirname" ⟨"z", "", []⟩ 1 arguments fun options => do
    if options.operands = [] then
      misuse "dirname" "missing operand"
      return 1
    for path in options.operands do print (directoryName path ++ "\n")
    return 0

def decimalPlaces? (text : String) : Option (Int × Nat) :=
  let (isNegative, body) := match text.toList with
    | '-' :: rest => (true, rest)
    | '+' :: rest => (false, rest)
    | rest => (false, rest)
  let whole := body.takeWhile Char.isDigit
  let (fraction, rest) := match body.drop whole.length with
    | '.' :: rest => (rest.takeWhile Char.isDigit, rest.dropWhile Char.isDigit)
    | rest => ([], rest)
  if rest ≠ [] ∨ (whole = [] ∧ fraction = []) then none
  else
    let value : Int := Text.decimalValue (whole ++ fraction)
    some (if isNegative then -value else value, fraction.length)

def runSeq (arguments : List String) : Run Nat := do
  let rec options (separator : String) (isWide : Bool) : List String → String × Bool × List String
    | "-s" :: separator :: rest => options separator isWide rest
    | "-w" :: rest => options separator true rest
    | first :: rest => match first.toList with
      | '-' :: 's' :: separator => options (String.ofList separator) isWide rest
      | _ => (separator, isWide, first :: rest)
    | [] => (separator, isWide, [])
  let (separator, isWide, operands) := options "\n" false arguments
  match operands.find? fun operand => (decimalPlaces? operand).isNone with
  | some operand =>
    misuse "seq" ("invalid floating point argument: " ++ inQuotes operand)
    return 1
  | none =>
    let numbers := operands.filterMap decimalPlaces?
    let bounds := match numbers with
      | [last] => some ((1, 0), (1, 0), last)
      | [first, last] => some (first, (1, 0), last)
      | [first, step, last] => some (first, step, last)
      | _ => none
    match bounds with
    | none =>
      misuse "seq" (if numbers = [] then "missing operand" else "extra operand " ++ inQuotes (operands.getD 3 ""))
      return 1
    | some (first, step, last) =>
      let places := max first.2 step.2
      let all := max places last.2
      let scaled (number : Int × Nat) : Int := number.1 * Nat.pow 10 (all - number.2)
      let (start, step, stop) := (scaled first, scaled step, scaled last)
      if step = 0 then
        misuse "seq" ("invalid Zero increment value: " ++ inQuotes (operands.getD 1 ""))
        return 1
      let count := if 0 < step then (if stop < start then 0 else ((stop - start) / step).toNat + 1)
        else if start < stop then 0 else ((start - stop) / (-step)).toNat + 1
      let shown (value : Int) : String :=
        (if value < 0 then "-" else "") ++ placed places (value.natAbs / Nat.pow 10 (all - places))
      let values := (List.range (min count 100000)).map fun (place : Nat) => shown (start + place * step)
      let width := (values.map String.length).foldl max 0
      let values := if isWide then values.map fun value =>
          if value.toList.head? = some '-' then "-" ++ filledLeft (width - 1) '0' (String.ofList (value.toList.drop 1))
          else filledLeft width '0' value
        else values
      if values ≠ [] then print (String.intercalate separator values ++ "\n")
      return 0

def isNull (text : String) : Bool := text = "" || Condition.decimal? text = some 0

abbrev ExprValue := Except (String × Nat)

def fitAtStart (text pattern : String) : ExprValue String :=
  match TextPattern.read false pattern.toList with
  | .error reason => .error (reason, 2)
  | .ok parsed =>
    let hasGroup := (pattern.splitOn "\\(").length > 1
    match parsed.longest? false (.start text.toList) with
    | some spot =>
      if hasGroup then .ok (String.ofList ((spot.groups.lookup 1).getD []))
      else .ok (toString (text.length - spot.rest.length))
    | none => .ok (if hasGroup then "" else "0")

def exprOperation (operator left right : String) : ExprValue String := do
  let integer (text : String) : ExprValue Int :=
    match Condition.decimal? text with
    | some value => if text.toList.any isSpace then .error ("non-integer argument", 2) else .ok value
    | none => .error ("non-integer argument", 2)
  let truth (holds : Bool) : String := if holds then "1" else "0"
  let order : Ordering := match Condition.decimal? left, Condition.decimal? right with
    | some a, some b => compare a b
    | _, _ => compare left right
  match operator with
  | "|" => return if !isNull left then left else if !isNull right then right else "0"
  | "&" => return if isNull left ∨ isNull right then "0" else left
  | "=" | "==" => return truth (order = .eq)
  | "!=" => return truth (order ≠ .eq)
  | "<" => return truth (order = .lt)
  | "<=" => return truth (order ≠ .gt)
  | ">" => return truth (order = .gt)
  | ">=" => return truth (order ≠ .lt)
  | ":" => fitAtStart left right
  | operator =>
    let a ← integer left
    let b ← integer right
    match operator with
    | "+" => return toString (a + b)
    | "-" => return toString (a - b)
    | "*" => return toString (a * b)
    | _ =>
      if b = 0 then throw ("division by zero", 2)
      return toString (if operator = "/" then a.tdiv b else a.tmod b)

def exprLevels : List (List String) :=
  [["|"], ["&"], ["=", "==", "!=", "<", "<=", ">", ">="], ["+", "-"], ["*", "/", "%"], [":"]]

mutual

def exprLevel : Nat → List (List String) → List String → ExprValue (String × List String)
  | 0, _, _ => .error ("syntax error", 2)
  | steps + 1, [], arguments => exprPrimary steps arguments
  | steps + 1, operators :: tighter, arguments => do
    let (left, rest) ← exprLevel steps tighter arguments
    exprMore steps operators tighter left rest

def exprMore : Nat → List String → List (List String) → String → List String → ExprValue (String × List String)
  | 0, _, _, _, _ => .error ("syntax error", 2)
  | steps + 1, operators, tighter, left, operator :: rest => do
    if operators.contains operator then
      if rest = [] then throw ("syntax error: missing argument after " ++ inQuotes operator, 2)
      let (right, rest) ← exprLevel steps tighter rest
      exprMore steps operators tighter (← exprOperation operator left right) rest
    else return (left, operator :: rest)
  | _ + 1, _, _, left, [] => .ok (left, [])

def exprPrimary : Nat → List String → ExprValue (String × List String)
  | 0, _ => .error ("syntax error", 2)
  | steps + 1, arguments =>
    match arguments with
    | "(" :: rest => do
      let (value, rest) ← exprLevel steps exprLevels rest
      match rest with
      | ")" :: rest => return (value, rest)
      | found :: _ => throw ("syntax error: expecting ')' instead of " ++ inQuotes found, 2)
      | [] => throw ("syntax error: expecting ')' after " ++ inQuotes (arguments.getLastD ""), 2)
    | "length" :: text :: rest => .ok (toString text.length, rest)
    | "match" :: text :: pattern :: rest => return (← fitAtStart text pattern, rest)
    | "index" :: text :: set :: rest =>
      .ok (toString ((text.toList.findIdx? set.toList.contains).map (· + 1) |>.getD 0), rest)
    | "substr" :: text :: start :: count :: rest =>
      match start.toNat?, count.toNat? with
      | some start, some count =>
        .ok (if start = 0 then "" else String.ofList ((text.toList.drop (start - 1)).take count), rest)
      | _, _ => .ok ("", rest)
    | "+" :: text :: rest => .ok (text, rest)
    | text :: rest => .ok (text, rest)
    | [] => .error ("missing operand", 2)

end

def runExpr (arguments : List String) : Run Nat := do
  let arguments := if arguments.head? = some "--" then arguments.tail else arguments
  if arguments = [] then
    misuse "expr" "missing operand"
    return 2
  let value : ExprValue String := do
    match ← exprLevel (64 * (arguments.length + 1)) exprLevels arguments with
    | (value, []) => return value
    | (_, found :: _) => throw ("syntax error: unexpected argument " ++ inQuotes found, 2)
  match value with
  | .ok value =>
    print (value ++ "\n")
    return if isNull value then 1 else 0
  | .error (reason, status) =>
    report ("expr: " ++ reason)
    return status

/-! ### Searching and replacing -/

def filesBelow (path : String) : List (FileName × FileNode) → List String
  | [] => []
  | (name, node) :: rest =>
    (match node with
      | .file _ => [inside path (ofBytes name)]
      | .link _ => []
      | .directory entries => filesBelow (inside path (ofBytes name)) entries) ++ filesBelow path rest

def runGrep (isExtended isFixed : Bool) (arguments : List String) : Run Nat :=
  withOptions "grep" ⟨"ivcnlLqoEFGPxwhHsraU", "emABC", [("ignore-case", 'i'), ("invert-match", 'v'), ("count", 'c'),
      ("line-number", 'n'), ("quiet", 'q'), ("silent", 'q'), ("extended-regexp", 'E'), ("fixed-strings", 'F'),
      ("only-matching", 'o'), ("line-regexp", 'x'), ("word-regexp", 'w'), ("recursive", 'r'),
      ("files-with-matches", 'l'), ("no-messages", 's')]⟩ 2 (withCount arguments) fun options => do
    let given := (options.values.filter fun (letter, _) => letter = 'e').map Prod.snd
    let (patterns, paths) := match given, options.operands with
      | [], pattern :: paths => (pattern.splitOn "\n", paths)
      | given, paths => (given.flatMap fun (text : String) => text.splitOn "\n", paths)
    if patterns = [] then
      report "Usage: grep [OPTION]... PATTERNS [FILE]..."
      report "Try 'grep --help' for more information."
      return 2
    let isFixed := isFixed || options.has 'F'
    let isExtended := isExtended || options.has 'E' || options.has 'P'
    let read (text : String) : Except String TextPattern :=
      let pattern : Except String TextPattern := if isFixed then
          .ok (text.toList.foldr (fun c rest => .sequence (.literal c) rest) .empty)
        else TextPattern.read isExtended text.toList
      pattern.map fun (pattern : TextPattern) =>
        let pattern : TextPattern := if options.has 'w' then
          .sequence (.wordEdge true true) (.sequence pattern (.wordEdge true true)) else pattern
        if options.has 'x' then .sequence .lineStart (.sequence pattern .lineEnd) else pattern
    match patterns.mapM read with
    | .error reason =>
      report ("grep: " ++ reason)
      return 2
    | .ok readPatterns =>
      let pattern := readPatterns.tail.foldl TextPattern.either (readPatterns.headD .empty)
      let isRecursive := options.has 'r'
      let paths := if paths = [] then (if isRecursive then ["."] else ["-"]) else paths
      let showsPath := ((decide (1 < paths.length) || isRecursive) && !options.has 'h') || options.has 'H'
      let mut all := []
      for path in paths do
        match isRecursive, ← nodeOf path true with
        | true, .ok (_, .directory entries) => all := all ++ filesBelow path entries
        | _, _ => all := all ++ [path]
      let most := ((options.value? 'm').bind String.toNat?).getD 1000000
      let context (letter : Char) : Nat :=
        (((options.value? letter).orElse fun _ => options.value? 'C').bind String.toNat?).getD 0
      let mut isFound := false
      let mut status := 1
      for path in all do
        let text ← if path ≠ "-" ∧ (← isDirectory path) then do
            report ("grep: " ++ path ++ ": Is a directory")
            pure none
          else if options.has 's' ∧ path ≠ "-" ∧ !(← nodeOf path true).toBool then pure none
          else inputFrom "grep" path
        match text with
        | none => status := 2
        | some text =>
          let lines := ((linesOf text).map withoutEnd).zipIdx
          let hits (line : String) : Bool :=
            (pattern.find? (options.has 'i') (line.length + 1) (.start line.toList)).isSome != options.has 'v'
          let found := (lines.filter fun (line, _) => hits line).take most
          if found ≠ [] then isFound := true
          let title := if showsPath then (if path = "-" then "(standard input)" else path) ++ ":" else ""
          let listsPaths := options.has 'l' || options.has 'L'
          if options.has 'q' then pure ()
          else if options.has 'c' then print (title ++ toString found.length ++ "\n")
          else if listsPaths then
            let isListed := if options.has 'l' then found ≠ [] else found = []
            print (if isListed then (if path = "-" then "(standard input)" else path) ++ "\n" else "")
          else if context 'A' + context 'B' ≠ 0 then
            let places := found.map Prod.snd
            let shown := lines.filter fun (_, place) => places.any fun other =>
              decide (place ≤ other + context 'A' ∧ other ≤ place + context 'B')
            let mut previous := none
            for (line, place) in shown do
              let isNear := match previous with
                | some before => decide (place = before + 1)
                | none => true
              if !isNear then print "--\n"
              let mark := if places.contains place then ":" else "-"
              let title := if showsPath then path ++ mark else ""
              print (title ++ (if options.has 'n' then toString (place + 1) ++ mark else "") ++ line ++ "\n")
              previous := some place
          else
            for (line, place) in found do
              let title := title ++ if options.has 'n' then toString (place + 1) ++ ":" else ""
              if options.has 'o' ∧ !options.has 'v' then
                for part in parts pattern (options.has 'i') (line.length + 1) (.start line.toList) do
                  print (title ++ part ++ "\n")
              else print (title ++ line ++ "\n")
      return if isFound ∧ (options.has 'q' ∨ status = 1) then 0 else status
where
  parts (pattern : TextPattern) (foldsCase : Bool) : Nat → TextPattern.Spot → List String
    | 0, _ => []
    | steps + 1, spot =>
      match pattern.find? foldsCase (spot.rest.length + 1) spot with
      | none => []
      | some (start, stop) =>
        let length := start.rest.length - stop.rest.length
        if length = 0 then
          if start.rest = [] then [] else parts pattern foldsCase steps (start.advance 1)
        else String.ofList (start.rest.take length) :: parts pattern foldsCase steps stop

def runCmp (arguments : List String) : Run Nat :=
  withOptions "cmp" ⟨"slb", "", [("silent", 's'), ("quiet", 's')]⟩ 2 arguments fun options => do
    match options.operands with
    | first :: rest =>
      let second := rest.headD "-"
      let left? ← inputFrom "cmp" first
      let right? ← if left?.isSome then inputFrom "cmp" second else pure none
      match left?, right? with
      | some left, some right =>
        if left = right then return 0
        let same := ((left.toList.zip right.toList).takeWhile fun (a, b) => a = b).length
        if !options.has 's' then
          let line := ((left.toList.take same).filter (· = '\n')).length + 1
          if same = left.length ∨ same = right.length then
            report ("cmp: EOF on " ++ (if left.length ≤ right.length then first else second) ++ " after byte " ++
              toString same ++ ", line " ++ toString line)
          else print (first ++ " " ++ second ++ " differ: char " ++ toString (same + 1) ++ ", line " ++
            toString line ++ "\n")
        return 1
      | _, _ => return 2
    | [] =>
      misuse "cmp" "missing operand"
      return 2

def commonLengths (first second : Array String) : Array (Array Nat) := Id.run do
  let mut table := Array.replicate (first.size + 1) (Array.replicate (second.size + 1) 0)
  for i in (List.range first.size).reverse do
    for j in (List.range second.size).reverse do
      let cell (row column : Nat) : Nat := ((table[row]?).bind (·[column]?)).getD 0
      let length := if first[i]? = second[j]? then cell (i + 1) (j + 1) + 1 else max (cell (i + 1) j) (cell i (j + 1))
      table := table.modify i fun row => row.set! j length
  return table

def differences (first second : Array String) : List (Nat × Nat × Nat × Nat) :=
  let table := commonLengths first second
  let length (row column : Nat) : Nat := ((table[row]?).bind (·[column]?)).getD 0
  let rec go : Nat → Nat → Nat → Nat → Nat → List (Nat × Nat × Nat × Nat)
    | 0, _, _, _, _ => []
    | steps + 1, i, j, dropped, added =>
      let part := if dropped + added = 0 then [] else [(i - dropped, j - added, dropped, added)]
      if first.size ≤ i ∧ second.size ≤ j then part
      else if i < first.size ∧ j < second.size ∧ first[i]? = second[j]? then
        part ++ go steps (i + 1) (j + 1) 0 0
      else if i < first.size ∧ (second.size ≤ j ∨ length i (j + 1) ≤ length (i + 1) j) then
        go steps (i + 1) j (dropped + 1) added
      else go steps i (j + 1) dropped (added + 1)
  go (first.size + second.size + 1) 0 0 0 0

def runDiff (arguments : List String) : Run Nat :=
  withOptions "diff" ⟨"qsbBiwrNu", "U", [("brief", 'q')]⟩ 2 arguments fun options => do
    match options.operands with
    | [first, second] =>
      let isFirst ← isDirectory first
      let isSecond ← isDirectory second
      let first := if isSecond && !isFirst then first else if isFirst && !isSecond then
        inside first (baseName second) else first
      let second := if isSecond && !isFirst then inside second (baseName first) else second
      match ← inputFrom "diff" first, ← inputFrom "diff" second with
      | some left, some right =>
        if left = right then return 0
        else if options.has 'q' then
          print ("Files " ++ first ++ " and " ++ second ++ " differ\n")
          return 1
        else
          let left := (linesOf left).toArray
          let right := (linesOf right).toArray
          let span (start count : Nat) : String :=
            if count = 0 then toString start
            else if count = 1 then toString (start + 1)
            else toString (start + 1) ++ "," ++ toString (start + count)
          let shown (mark : String) (lines : Array String) (start count : Nat) : String :=
            String.join (((lines.toList.drop start).take count).map fun line =>
              mark ++ withEnd line ++ if withoutEnd line = line then "\\ No newline at end of file\n" else "")
          for (i, j, dropped, added) in differences left right do
            let sort := if added = 0 then "d" else if dropped = 0 then "a" else "c"
            print (span i dropped ++ sort ++ span j added ++ "\n" ++ shown "< " left i dropped ++
              (if sort = "c" then "---\n" else "") ++ shown "> " right j added)
          return 1
      | _, _ => return 2
    | [] =>
      misuse "diff" "missing operand after 'diff'"
      return 2
    | operands =>
      misuse "diff" (if operands.length = 1 then "missing operand after " ++ inQuotes (operands.headD "")
        else "extra operand " ++ inQuotes (operands.getD 2 ""))
      return 2

def runOd (arguments : List String) : Run Nat :=
  withOptions "od" ⟨"cbxvd", "AtNjw", []⟩ 1 arguments fun options => do
    let (text, status) ← wholeText "od" options.paths
    let bytes := text.toList
    let sort := options.value? 't'
    let inOctal (width value : Nat) : String := filledLeft width '0' (String.ofList (Nat.toDigits 8 value))
    let cell (c : Char) : String :=
      if options.has 'c' ∨ sort = some "c" then
        filledLeft 4 ' ' (match c with
          | '\x00' => "\\0"
          | '\x07' => "\\a"
          | '\x08' => "\\b"
          | '\t' => "\\t"
          | '\n' => "\\n"
          | '\x0b' => "\\v"
          | '\x0c' => "\\f"
          | '\r' => "\\r"
          | c => if ' ' ≤ c ∧ c ≤ '~' then c.toString else inOctal 3 c.toNat)
      else if sort = some "x1" then " " ++ filledLeft 2 '0' (String.ofList (Nat.toDigits 16 c.toNat))
      else if sort = some "u1" then filledLeft 4 ' ' (toString c.toNat)
      else " " ++ inOctal 3 c.toNat
    let address (place : Nat) : String := if options.value? 'A' = some "n" then "" else inOctal 7 place
    let rows := (List.range ((bytes.length + 15) / 16)).map fun row =>
      address (16 * row) ++ String.join (((bytes.drop (16 * row)).take 16).map cell) ++ "\n"
    print (String.join rows ++ if options.value? 'A' = some "n" then "" else address bytes.length ++ "\n")
    return status

def runTee (arguments : List String) : Run Nat :=
  withOptions "tee" ⟨"aip", "", [("append", 'a')]⟩ 1 arguments fun options => do
    let text := (← readAll 0).toOption.getD ""
    print text
    forAll options.operands fun path => do
      match ← openPath path (if options.has 'a' then .append else .write) with
      | .error fault => failing "tee" path fault.reason
      | .ok index =>
        let old := (← process).streams
        setStream 1 index
        print text
        changeProcess fun process => { process with streams := old }
        return true

def runNl (arguments : List String) : Run Nat :=
  withOptions "nl" ⟨"p", "bnwsv", []⟩ 1 arguments fun options => do
    let (text, status) ← wholeText "nl" options.paths
    let all := options.value? 'b' = some "a"
    let rec rows (number : Nat) : List String → List String
      | [] => []
      | line :: rest =>
        if line = "\n" ∧ !all then ("       " ++ line) :: rows number rest
        else (filledLeft 6 ' ' (toString number) ++ "\t" ++ withEnd line) :: rows (number + 1) rest
    print (String.join (rows 1 (linesOf text)))
    return status

def runTac (arguments : List String) : Run Nat :=
  withOptions "tac" ⟨"br", "s", []⟩ 1 arguments fun options =>
    forEachText "tac" options.paths fun _ text => print (String.join (linesOf text).reverse)

def runRev (arguments : List String) : Run Nat :=
  withOptions "rev" ⟨"", "", []⟩ 1 arguments fun options =>
    forEachText "rev" options.paths fun _ text => print (String.join ((linesOf text).map fun line =>
      String.ofList (withoutEnd line).toList.reverse ++ if line.toList.getLast? = some '\n' then "\n" else ""))

end TableScript.Shell
