import Kailua.Env.Loc
import Kailua.Env.SpanIter
import Kailua.Syntax.Lex
import Kailua.Diag.Report
import Kailua.Diag.Console
import Kailua.Check.Ty.Slot
import Kailua.Check.Ty.Flags
import Kailua.Check.Ty.SlotStore
import Kailua.Check.Diag.TypeReport
import Kailua.Check.Diag.Format
import Kailua.Check.Diag.Render
