import TableScript.Files.SchemaPath
import TableScript.Proofs.Catalogue
import TableScript.Proofs.Command.Arguments
import TableScript.Proofs.Command.Calls
import TableScript.Proofs.Command.Channels
import TableScript.Proofs.Command.Plan
import TableScript.Proofs.Command.Preparation
import TableScript.Proofs.Command.Run
import TableScript.Proofs.Command.SchemaChoice
import TableScript.Proofs.Command.TableChoice
import TableScript.Proofs.Execution
import TableScript.Proofs.Files.Discovery
import TableScript.Proofs.Files.Path
import TableScript.Proofs.Files.Place
import TableScript.Proofs.Input
import TableScript.Proofs.Model.ClassName
import TableScript.Proofs.Schema.Alike
import TableScript.Proofs.Schema.Appended
import TableScript.Proofs.Schema.ColumnLine
import TableScript.Proofs.Schema.CommentedLine
import TableScript.Proofs.Schema.Declaration
import TableScript.Proofs.Schema.Declared
import TableScript.Proofs.Schema.HeaderOption
import TableScript.Proofs.Schema.Loading
import TableScript.Proofs.Schema.Name
import TableScript.Proofs.Schema.Noise
import TableScript.Proofs.Schema.Reader
import TableScript.Proofs.Schema.Remark
import TableScript.Proofs.Schema.RoundTrip
import TableScript.Proofs.Schema.Shape
import TableScript.Proofs.Schema.Written
import TableScript.Proofs.Script
import TableScript.Proofs.Selection.Expression
import TableScript.Proofs.Selection.Lookup
import TableScript.Proofs.Selection.Print
import TableScript.Proofs.Selection.Resolution
import TableScript.Proofs.Selection.Saturation
import TableScript.Proofs.Selection.Scripts
import TableScript.Proofs.Selection.Spacing
import TableScript.Proofs.Settings
import TableScript.Proofs.Shell.Interpreter
import TableScript.Proofs.Shell.Machine
import TableScript.Proofs.Shell.Reader
import TableScript.Proofs.Text.Character
import TableScript.Proofs.Text.Json
import TableScript.Proofs.Text.Numeral
import TableScript.Proofs.Text.Run
import TableScript.Proofs.Text.Split
import TableScript.Proofs.Text.Trim
import TableScript.Proofs.Text.Utf8
import TableScript.Proofs.Toml.Written
import TableScript.Schema.Written
import TableScript.Selection.Enumeration
import TableScript.Selection.Grammar
import TableScript.Selection.Print
import TableScript.Shell.Machine
