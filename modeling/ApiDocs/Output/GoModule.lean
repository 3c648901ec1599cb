import ApiDocs.Swagger.JsonForm

/-!
# The Go module

A Go source file that carries the documentation as two text constants and hands it to the registry
of its web framework at the start of a program.
-/

set_option autoImplicit false

namespace ApiDocs.GoModule

/-- The lines of the module up to its first constant. -/
def headerLines : List String :=
  ["package docs",
   "",
   "import (",
   "\t\"encoding/json\"",
   "\t\"strings\"",
   "",
   "\t\"github.com/astaxie/beego\"",
   "\t\"github.com/astaxie/beego/context\"",
   "\t\"github.com/astaxie/beego/swagger\"",
   ")",
   "",
   "const (",
   "\tRootinfo string = "]

/-- The lines of the module between its two constants. -/
def betweenLines : List String :=
  ["", "\tSubapi   string = "]

/-- The lines of the module after its last constant. -/
def footerLines : List String :=
  ["",
   ")",
   "",
   "var BasePath string",
   "",
   "var rootapi swagger.ResourceListing",
   "var apilist map[string]*swagger.ApiDeclaration",
   "",
   "func init() \x7b",
   "\tversion := beego.AppConfig.DefaultString(\"version\", \"2.0\")",
   "\tBasePath = \"/\" + version",
   "\tif beego.EnableDocs \x7b",
   "\t\terr := json.Unmarshal([]byte(Rootinfo), &rootapi)",
   "\t\tif err != nil \x7b",
   "\t\t\tbeego.Error(err)",
   "\t\t\x7d",
   "\t\terr = json.Unmarshal([]byte(Subapi), &apilist)",
   "\t\tif err != nil \x7b",
   "\t\t\tbeego.Error(err)",
   "\t\t\x7d",
   "\t\tbeego.GlobalDocApi[\"Root\"] = rootapi",
   "\t\tbeego.Trace(\"Load Docs: version\", rootapi.ApiVersion)",
   "\t\tfor k, v := range apilist \x7b",
   "\t\t\tfor i, a := range v.Apis \x7b",
   "\t\t\t\ta.Path = urlReplace(a.Path)",
   "\t\t\t\tv.Apis[i] = a",
   "\t\t\t\x7d",
   "\t\t\tv.BasePath = BasePath",
   "\t\t\tbeego.GlobalDocApi[strings.Trim(k, \"/\")] = v",
   "\t\t\x7d",
   "\t\x7d",
   "\x7d",
   "",
   "// SetupRouter serves the raw documentation under /rawdoc.",
   "func SetupRouter(ns *beego.Namespace) \x7b",
   "\tdocns := beego.NewNamespace(\"/rawdoc\")",
   "\tdocns.Get(\"/\", func(ctx *context.Context) \x7b",
   "\t\tctx.Output.Json(rootapi, false, false)",
   "\t\x7d)",
   "\tfor k, v := range apilist \x7b",
   "\t\tvv := v",
   "\t\tdocns.Get(\"/\"+strings.Trim(k, \"/\"), func(ctx *context.Context) \x7b",
   "\t\t\tctx.Output.Json(vv, false, false)",
   "\t\t\x7d)",
   "\t\x7d",
   "\tns.Namespace(docns)",
   "\x7d",
   "",
   "func urlReplace(src string) string \x7b",
   "\tpt := strings.Split(src, \"/\")",
   "\tfor i, p := range pt \x7b",
   "\t\tif len(p) == 0 \x7b",
   "\t\t\tcontinue",
   "\t\t\x7d",
   "\t\tif p[0] == ':' \x7b",
   "\t\t\tpt[i] = \"\x7b\" + p[1:] + \"\x7d\"",
   "\t\t\x7d else if len(p) > 1 && p[0] == '?' && p[1] == ':' \x7b",
   "\t\t\tpt[i] = \"\x7b\" + p[2:] + \"\x7d\"",
   "\t\t\x7d",
   "\t\x7d",
   "\treturn strings.Join(pt, \"/\")",
   "\x7d",
   ""]

/-- A text as a literal. The escapes of JSON are escapes of Go as well. -/
def literal (text : String) : String :=
  Json.quote text

/-- The text of the module. -/
def source (doc : Documentation) : String :=
  "\n".intercalate headerLines ++ literal doc.listing.toJson.toIndented
    ++ "\n".intercalate betweenLines ++ literal (Groups.toJson doc.groups).toIndented
    ++ "\n".intercalate footerLines

/-- The place of the module in an output directory. -/
def path (output : Path) : Path :=
  (output.join ⟨"docs"⟩).join ⟨"docs.go"⟩

end ApiDocs.GoModule
