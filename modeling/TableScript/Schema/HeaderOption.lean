import TableScript.Schema.Grammar

/-! The options that may stand between a table's name and its block, and how they are written. -/
namespace TableScript.Schema

inductive OptionValue where
  | symbol (name : List Char)
  | number (text : List Char)
  | flag (value : Bool)
  | nil
  | text (content : List Char)
  | list (items : List OptionValue)
  | record (fields : List (List Char × OptionValue))
  | function (content : List Char)

def quotedText (content : List Char) : List Char := '"' :: content ++ ['"']

mutual

def OptionValue.write : OptionValue → List Char
  | .symbol name => ':' :: name
  | .number text => text
  | .flag true => "true".toList
  | .flag false => "false".toList
  | .nil => "nil".toList
  | .text content => quotedText content
  | .list items => '[' :: writeItems items ++ [']']
  | .record fields => '{' :: writeFields fields ++ r" }".toList
  | .function content => r"-> { ".toList ++ quotedText content ++ r" }".toList

def writeItems : List OptionValue → List Char
  | [] => []
  | [item] => item.write
  | item :: items => item.write ++ ", ".toList ++ writeItems items

def writeFields : List (List Char × OptionValue) → List Char
  | [] => []
  | [(key, value)] => ' ' :: key ++ ": ".toList ++ value.write
  | (key, value) :: fields => ' ' :: key ++ ": ".toList ++ value.write ++ ',' :: writeFields fields

end

namespace OptionValue

@[simp] theorem write_symbol (name : List Char) : (symbol name).write = ':' :: name := rfl

@[simp] theorem write_number (text : List Char) : (number text).write = text := rfl

@[simp] theorem write_text (content : List Char) : (text content).write = quotedText content := rfl

@[simp] theorem write_list (items : List OptionValue) :
    (list items).write = '[' :: writeItems items ++ [']'] := rfl

@[simp] theorem write_record (fields : List (List Char × OptionValue)) :
    (record fields).write = '{' :: writeFields fields ++ r" }".toList := rfl

@[simp] theorem write_function (content : List Char) :
    (function content).write = r"-> { ".toList ++ quotedText content ++ r" }".toList := rfl

end OptionValue

def writeOptions (options : List (List Char × OptionValue)) : List Char :=
  options.flatMap fun (key, value) => ", ".toList ++ key ++ ": ".toList ++ value.write

def IsPlain (content : List Char) : Prop := ∀ c ∈ content, c ∉ ['"', '\\', '\n', '\r']

def IsNumber (text : List Char) : Prop :=
  text ≠ [] ∧ ∀ c ∈ text, c.isDigit = true ∨ c ∈ ['+', '-', '.', '_', 'e', 'E']

mutual

def OptionValue.WellFormed : OptionValue → Prop
  | .symbol name => IsIdentifier name
  | .number text => IsNumber text
  | .flag _ | .nil => True
  | .text content => IsPlain content
  | .list items => WellFormedItems items
  | .record fields => WellFormedFields fields
  | .function content => IsPlain content

def WellFormedItems : List OptionValue → Prop
  | [] => True
  | item :: items => item.WellFormed ∧ WellFormedItems items

def WellFormedFields : List (List Char × OptionValue) → Prop
  | [] => True
  | (key, value) :: fields => IsIdentifier key ∧ value.WellFormed ∧ WellFormedFields fields

end

end TableScript.Schema
