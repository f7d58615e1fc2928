import S4Manifests.Python.Value
import S4Manifests.Python.Text
import S4Manifests.Python.Base64
import S4Manifests.Python.UrlEncode
import S4Manifests.Json.Scanner
import S4Manifests.Json.Progress
import S4Manifests.Json.Encoder
import S4Manifests.Json.Reload
import S4Manifests.Trace
import S4Manifests.Store
import S4Manifests.Read.Fetch
import S4Manifests.Read.Query
import S4Manifests.Read.Main
import S4Manifests.Seed.Upload
import S4Manifests.Seed.Records
import S4Manifests.Json.Ascii
import S4Manifests.Seed.Generate
import S4Manifests.Seed.Manifest
import S4Manifests.Seed.Insert
import S4Manifests.RoundTrip
import S4Manifests.Pipeline
import S4Manifests.System
import S4Manifests.Auth
