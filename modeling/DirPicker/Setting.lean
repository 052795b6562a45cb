import DirPicker.Workspace

/-!
# Settings from the environment

A setting that holds a list can be given on the command line, one value at a time, or in a
variable of the environment, as one text with a separator between the items. The command line
goes first, and the variable counts only when the command line says nothing.

Empty items mean nothing, so that separators at the ends of the text, or two in a row, are
harmless.
-/

namespace DirPicker

namespace Setting

/-- The items of a text with separators between them. -/
def items (separator : Char) (value : Text) : List Text :=
  (Text.pieces separator value).filter (!·.isEmpty)

/-- The values given on the command line, or else those that `read` finds in the variable, if it
is set. -/
def orInherited {α : Type} (values : List α) (inherited : Option Text) (read : Text → List α) :
    List α :=
  if values.isEmpty then (inherited.map read).getD [] else values

def pathSeparator : Char := ':'

def definitionSeparator : Char := ';'

/-- The definition that an item of a variable gives, if it gives one. -/
def definition? (item : Text) : Option Workspace.Definition :=
  (Workspace.Definition.parse item).toOption

/-- The definitions of workspaces in a variable. Items that define nothing are left out. -/
def definitions (value : Text) : List Workspace.Definition :=
  (items definitionSeparator value).filterMap definition?

end Setting

end DirPicker
