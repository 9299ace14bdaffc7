import WrkrDocs.Text
import WrkrDocs.Site
import WrkrDocs.Navigation
import WrkrDocs.Sidebar
import WrkrDocs.Header
import WrkrDocs.Agreement
import WrkrDocs.StructuredData
import WrkrDocs.JsonText
import WrkrDocs.HomePage
