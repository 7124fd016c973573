import TextTemplate.CaseInsensitiveMap.Session
import TextTemplate.Delimiters.Json
import TextTemplate.Formatter
import TextTemplate.Model.Session
import TextTemplate.Proofs.CaseInsensitiveMap.Session
import TextTemplate.Proofs.Delimiters.Json
import TextTemplate.Proofs.Delimiters.Settings
import TextTemplate.Proofs.Mapping.Runs
import TextTemplate.Proofs.Model
import TextTemplate.Proofs.Render
import TextTemplate.Proofs.Resolver.Entries
import TextTemplate.Proofs.Scanner.Append
import TextTemplate.Proofs.Scanner.Copies
import TextTemplate.Proofs.Scanner.Lazy
import TextTemplate.Proofs.Scanner.Names
import TextTemplate.Proofs.Scanner.Slide
import TextTemplate.Proofs.Scanner.Template
import TextTemplate.Proofs.Scanner.Turns
import TextTemplate.Proofs.Scanner.Uppercase
import TextTemplate.Proofs.Sink
import TextTemplate.Proofs.Text.Uppercase
import TextTemplate.Resolver.Entries
import TextTemplate.Sink
import TextTemplate.Value
